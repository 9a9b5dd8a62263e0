import ScopedWork.Proofs.Root.Steps

/-!
# Operations of work on a live unit

The operations that work runs on the context of its execution scope (tracking, finding,
counting, raw commands and saves), each as one `Moves` step. Between operations the unit is
steady: its lock is free and its observer is not saving; every operation leaves it so.

Saving starts the unit's transaction before it writes, a raw command starts it before it
runs, and a query first saves when the observer's flush mode asks for it. So no operation
ever writes outside the context's transaction: the database never sees a change of work
in a transaction of its own that commits at once.
-/

namespace ScopedWork

open Act Execution

variable {σ : Type} {u c o : Nat}

namespace Execution

/-- Between operations the unit's lock is free and its observer is not saving. -/
structure Steady (u o : Nat) (w : World) : Prop where
  lock_free : (w.units[u]?.getD default).lock = .free
  not_saving : (w.observers[o]?.getD default).saving = false

theorem Steady.of_eq {w w' : World} (hst : Steady u o w) (hu : w'.units = w.units)
    (hsave : (w'.observers[o]?.getD default).saving = (w.observers[o]?.getD default).saving) :
    Steady u o w' :=
  ⟨hu ▸ hst.lock_free, hsave ▸ hst.not_saving⟩

/-- An operation that keeps a live unit steady: from a live, steady state it moves to a
steady one, whatever its outcome. -/
def KeepsSteady {α : Type} (u c o : Nat) (x : Act σ α) : Prop :=
  ∀ ⦃s s' : Sys σ⦄ ⦃r : Except Fault α⦄, Live u c o s.world → Steady u o s.world →
    exec x s = (r, s') → Moves u c o s s' ∧ Steady u o s'.world

namespace KeepsSteady

variable {α β : Type}

theorem pure (a : α) : KeepsSteady (σ := σ) u c o (Pure.pure a) := by
  intro s s' r hl hst hx
  obtain ⟨rfl, rfl⟩ := Prod.mk.inj hx
  exact ⟨Moves.refl hl, hst⟩

theorem world : KeepsSteady (σ := σ) u c o Act.world := by
  intro s s' r hl hst hx
  obtain ⟨rfl, rfl⟩ := Prod.mk.inj hx
  exact ⟨Moves.refl hl, hst⟩

theorem bind {x : Act σ α} {f : α → Act σ β} (hx : KeepsSteady u c o x)
    (hf : ∀ a, KeepsSteady u c o (f a)) : KeepsSteady u c o (x >>= f) := by
  intro s s' r hl hst hy
  rw [exec_bind] at hy
  rcases h₁ : exec x s with ⟨q, s₁⟩
  obtain ⟨hm₁, hst₁⟩ := hx hl hst h₁
  rw [h₁] at hy
  cases q with
  | ok a =>
    obtain ⟨hm₂, hst₂⟩ := hf a hm₁.live hst₁ hy
    exact ⟨hm₁.trans hm₂, hst₂⟩
  | error e =>
    obtain ⟨rfl, rfl⟩ := Prod.mk.inj hy
    exact ⟨hm₁, hst₁⟩

theorem roundTrip (wait : Wait) : KeepsSteady (σ := σ) u c o wait.roundTrip := by
  intro s s' r hl hst hx
  obtain ⟨-, hs'⟩ := Wait.roundTrip_spec hx
  rw [hs']
  exact ⟨Moves.of_tokens hl _ _, hst.of_eq rfl rfl⟩

end KeepsSteady

end Execution

namespace Execution.Moves

variable {s : Sys σ}

/-- A change to the context that keeps its interceptors and its transaction. -/
theorem of_context (hl : Live u c o s.world) (x : ContextState)
    (hint : x.interceptors = (s.world.contexts[c]?.getD default).interceptors)
    (htxn : x.txn = (s.world.contexts[c]?.getD default).txn) :
    Moves u c o s { s with world := { s.world with contexts := s.world.contexts.modify c fun _ => x } } :=
  of_frame hl (Frame.of_context _ _ hint) (Stays.of_eq rfl rfl rfl) rfl
    (World.getD_modify_view _ _ _ _ _ _ htxn) rfl rfl rfl

/-- A change to the observer that keeps its shape and the unit's invalidation. -/
theorem of_observer (hl : Live u c o s.world) (x : ObserverState)
    (hshape : x.shape = (s.world.observers[o]?.getD default).shape)
    (hab : x.aborted = (s.world.observers[o]?.getD default).aborted) :
    Moves u c o s { s with world := { s.world with observers := s.world.observers.modify o fun _ => x } } :=
  of_frame hl (Frame.of_observer _ _ hshape) (Stays.of_eq rfl rfl rfl) rfl rfl
    (World.getD_modify_view _ _ _ _ _ _ hab) rfl rfl

/-- A write in the context's open transaction. -/
theorem of_write (hl : Live u c o s.world) {t : Nat} {tx : Transaction}
    (hslot : (s.world.contexts[c]?.getD default).txn = some t) (htx : s.world.db.txns.find? t = some tx)
    (cs : List Change) :
    Moves u c o s { s with world := { s.world with db := { s.world.db with
      txns := s.world.db.txns.put { tx with log := tx.log ++ cs }
      history := s.world.db.history ++ [.wrote t cs] } } } := by
  have hid : tx.id = t := (hl.serial.wf.find?_some htx).1
  refine ⟨hl.of_frame (Frame.of_db _ _) (Stays.of_eq rfl rfl rfl) (hl.serial.write htx cs) ?_,
    ⟨Frame.of_db _ _, Stays.of_eq rfl rfl rfl, rfl, rfl, [.wrote t cs], rfl, .inl ⟨rfl, ?_⟩⟩, rfl, rfl⟩
  · intro t' ht'
    rw [hslot] at ht'
    cases ht'
    simp [hid, htx]
  · rw [hslot]
    intro ev hev
    exact ⟨cs, List.mem_singleton.mp hev⟩

end Execution.Moves

/-! ### Tracking and notifying -/

theorem Context.notifyEach_spec {h : Hooks σ} {ns : List Notice} {s s' : Sys σ} {r : Except Fault Unit}
    (hl : Live u c o s.world) (hx : exec (Context.notifyEach h c ns) s = (r, s')) :
    Moves u c o s s' ∧ s'.world.units = s.world.units ∧
      (s'.world.observers[o]?.getD default) =
        ns.foldl ObserverState.noticed (s.world.observers[o]?.getD default) := by
  rw [Context.notifyEach_exec h ns hl] at hx
  obtain ⟨rfl, rfl⟩ := Prod.mk.inj hx
  exact ⟨Moves.of_observer hl _ (by simp) (by simp), rfl,
    by simp [World.getD_modify_of_lt _ _ _ hl.observer_lt]⟩

theorem Context.onTracker_spec {α : Type} {f : Tracker → Except Fault (Tracker × α)} {s s' : Sys σ}
    {r : Except Fault α} (hl : Live u c o s.world) (hx : exec (Context.onTracker c f) s = (r, s')) :
    Moves u c o s s' ∧ s'.world.units = s.world.units ∧ s'.world.observers = s.world.observers := by
  simp only [Context.onTracker, exec_bind, exec_world, World.context_eq, exec_ofExcept] at hx
  cases hf : f (s.world.contexts[c]?.getD default).tracker with
  | error e =>
    rw [hf] at hx
    obtain ⟨rfl, rfl⟩ := Prod.mk.inj hx
    exact ⟨Moves.refl hl, rfl, rfl⟩
  | ok p =>
    rw [hf] at hx
    simp only [Context.modify, exec_modifyWorld, exec_pure, World.setContext_eq,
      World.context_eq] at hx
    obtain ⟨rfl, rfl⟩ := Prod.mk.inj hx
    exact ⟨Moves.of_context hl _ rfl rfl, rfl, rfl⟩

namespace ObserverState

/-- Only the end of a save changes whether the observer is saving. -/
@[simp] theorem saving_noticed_entityTracked (x : ObserverState) (b : Bool) :
    (x.noticed (.entityTracked b)).saving = x.saving := by
  simp only [noticed]; split <;> rfl

@[simp] theorem saving_noticed_stateChanged (x : ObserverState) (st : EntityState) :
    (x.noticed (.stateChanged st)).saving = x.saving := by
  simp only [noticed]; split <;> rfl

end ObserverState

theorem Context.onTracker_keeps {α : Type} (f : Tracker → Except Fault (Tracker × α)) :
    KeepsSteady (σ := σ) u c o (Context.onTracker c f) := by
  intro s s' r hl hst hx
  obtain ⟨hm, hu, ho⟩ := Context.onTracker_spec hl hx
  exact ⟨hm, hst.of_eq hu (by rw [ho])⟩

/-- Notices that do not end a save keep the unit steady. -/
theorem Context.notifyEach_keeps (h : Hooks σ) {ns : List Notice}
    (hns : ∀ x : ObserverState, (ns.foldl ObserverState.noticed x).saving = x.saving) :
    KeepsSteady u c o (Context.notifyEach h c ns) := by
  intro s s' r hl hst hx
  obtain ⟨hm, hu, ho⟩ := Context.notifyEach_spec hl hx
  exact ⟨hm, hst.of_eq hu (by rw [ho, hns])⟩

theorem Context.add_keeps (h : Hooks σ) (k : Key) (v : Value) :
    KeepsSteady (σ := σ) u c o (Context.add h c k v) :=
  .bind (Context.onTracker_keeps _) fun _ => Context.notifyEach_keeps h fun _ => by simp

theorem Context.update_keeps (h : Hooks σ) (k : Key) (v : Value) :
    KeepsSteady (σ := σ) u c o (Context.update h c k v) :=
  .bind (Context.onTracker_keeps _) fun _ => Context.notifyEach_keeps h fun _ => by simp

theorem Context.remove_keeps (h : Hooks σ) (k : Key) :
    KeepsSteady (σ := σ) u c o (Context.remove h c k) :=
  .bind (Context.onTracker_keeps _) fun _ => Context.notifyEach_keeps h fun _ => by simp

/-! ### Saving -/

/-- Changes are written in the context's open transaction, or not at all. -/
theorem Context.writeChanges_spec {cs : List Change} {s s' : Sys σ} {r : Except Fault Nat}
    (hl : Live u c o s.world) (hslot : (s.world.contexts[c]?.getD default).txn.isSome)
    (hx : exec (Context.writeChanges c cs) s = (r, s')) :
    Moves u c o s s' ∧ s'.world.units = s.world.units ∧ s'.world.observers = s.world.observers ∧
      s'.world.contexts = s.world.contexts := by
  obtain ⟨t, ht⟩ := Option.isSome_iff_exists.mp hslot
  simp only [Context.writeChanges, Context.currentTxn, exec_bind, exec_world, exec_pure,
    World.context_eq, ht, exec_database] at hx
  rcases @Database.write_run_cases _ t hl.serial.wf cs with ⟨e, he⟩ | ⟨tx, v, n₀, v', n, htx, -, -, he⟩
  · rw [he] at hx
    obtain ⟨rfl, rfl⟩ := Prod.mk.inj hx
    exact ⟨Moves.refl hl, rfl, rfl, rfl⟩
  · rw [he] at hx
    obtain ⟨rfl, rfl⟩ := Prod.mk.inj hx
    exact ⟨Moves.of_write hl ht htx cs, rfl, rfl, rfl⟩

/-- Flushing writes the pending changes in the context's open transaction, if there are any. -/
theorem Context.flush_spec {s s' : Sys σ} {r : Except Fault Nat} (hl : Live u c o s.world)
    (hslot : (s.world.contexts[c]?.getD default).txn.isSome) (hx : exec (Context.flush c) s = (r, s')) :
    Moves u c o s s' ∧ s'.world.units = s.world.units ∧ s'.world.observers = s.world.observers := by
  simp only [Context.flush, exec_bind, exec_world, World.context_eq] at hx
  by_cases hcs : ((s.world.contexts[c]?.getD default).tracker.detectChanges).isEmpty = true
  · simp only [hcs, if_true, exec_pure] at hx
    obtain ⟨rfl, rfl⟩ := Prod.mk.inj hx
    exact ⟨Moves.refl hl, rfl, rfl⟩
  simp only [hcs, Bool.false_eq_true, if_false, exec_bind] at hx
  split at hx
  · next n s₁ hw =>
    obtain ⟨hm₁, hu₁, ho₁, hc₁⟩ := Context.writeChanges_spec hl hslot hw
    simp only [Context.modify, exec_modifyWorld, exec_pure, World.setContext_eq,
      World.context_eq] at hx
    obtain ⟨rfl, rfl⟩ := Prod.mk.inj hx
    exact ⟨hm₁.trans (Moves.of_context hm₁.live _ rfl rfl), hu₁, ho₁⟩
  · next e s₁ hw =>
    obtain ⟨hm₁, hu₁, ho₁, -⟩ := Context.writeChanges_spec hl hslot hw
    obtain ⟨rfl, rfl⟩ := Prod.mk.inj hx
    exact ⟨hm₁, hu₁, ho₁⟩

/-- Before a save the observer marks itself as saving and starts the unit's transaction. -/
theorem Observer.beforeSave_spec {h : Hooks σ} {wait : Wait} {s s' : Sys σ} {r : Except Fault Unit}
    (hl : Live u c o s.world) (hfree : (s.world.units[u]?.getD default).lock = .free)
    (hx : exec (Observer.beforeSave h o wait) s = (r, s')) :
    Moves u c o s s' ∧ (s'.world.units[u]?.getD default).lock = .free ∧
      (r = .ok () → (s'.world.contexts[c]?.getD default).txn.isSome) := by
  have hm₁ := Moves.of_observer hl { s.world.observers[o]?.getD default with unit := u, saving := true }
    (by simp [ObserverState.shape, hl.observer_unit]) rfl
  simp only [Observer.beforeSave, UnitOfWork.modifyObserver, exec_bind, exec_modifyWorld,
    World.setObserver_eq, World.observer_eq, exec_world, World.getD_modify_of_lt _ _ _ hl.observer_lt,
    if_true, hl.observer_unit] at hx
  split at hx
  · next b s₁ hs =>
    obtain ⟨hm₂, hfree₂, -, hslot₂⟩ := UnitOfWork.tryStart_spec hm₁.live hfree hs
    obtain ⟨rfl, rfl⟩ := Prod.mk.inj hx
    exact ⟨hm₁.trans hm₂, hfree₂, fun _ => hslot₂ b rfl⟩
  · next e s₁ hs =>
    obtain ⟨hm₂, hfree₂, -, -⟩ := UnitOfWork.tryStart_spec hm₁.live hfree hs
    obtain ⟨rfl, rfl⟩ := Prod.mk.inj hx
    exact ⟨hm₁.trans hm₂, hfree₂, fun h => nomatch h⟩

/-- Saving leaves the observer not saving and the lock free, whatever happened: the changes
are written only after the unit's transaction was started. -/
theorem Context.save_spec {h : Hooks σ} {wait : Wait} {s s' : Sys σ} {r : Except Fault Nat}
    (hl : Live u c o s.world) (hfree : (s.world.units[u]?.getD default).lock = .free)
    (hx : exec (Context.save h c wait) s = (r, s')) : Moves u c o s s' ∧ Steady u o s'.world := by
  simp only [Context.save, Context.interceptorsNow, exec_bind, exec_world, World.context_eq,
    hl.interceptors, exec_pure, exec_outcome, List.forM] at hx
  rcases hbs : exec (Observer.beforeSave h o wait) s with ⟨p, s₁⟩
  obtain ⟨hm₁, hfree₁, hslot₁⟩ := Observer.beforeSave_spec hl hfree hbs
  rw [hbs] at hx
  have finish : ∀ (n : Notice) (q : Except Fault Nat) (s₂ : Sys σ), Moves u c o s s₂ →
      (s₂.world.units[u]?.getD default).lock = .free → (∀ x : ObserverState, (x.noticed n).saving = false) →
      exec (Context.notifyEach h c [n] >>= fun _ => Act.ofExcept q) s₂ = (r, s') →
      Moves u c o s s' ∧ Steady u o s'.world := by
    intro n q s₂ hm₂ hfree₂ hn hy
    rcases hnot : exec (Context.notifyEach h c [n]) s₂ with ⟨q₁, s₃⟩
    obtain ⟨hm₃, hu₃, ho₃⟩ := Context.notifyEach_spec hm₂.live hnot
    have hq₁ : q₁ = .ok () := by
      rw [Context.notifyEach_exec h _ hm₂.live] at hnot
      exact (Prod.mk.inj hnot).1.symm
    subst hq₁
    simp only [exec_bind, hnot, exec_ofExcept] at hy
    obtain ⟨rfl, rfl⟩ := Prod.mk.inj hy
    refine ⟨hm₂.trans hm₃, by rw [hu₃]; exact hfree₂, ?_⟩
    rw [ho₃]
    exact hn _
  cases p with
  | error e =>
    simp only [exec_ofExcept] at hx
    exact finish .saveFailed _ s₁ hm₁ hfree₁ (fun _ => rfl) hx
  | ok _ =>
    simp only [exec_ofExcept] at hx
    rcases hrt : exec wait.roundTrip s₁ with ⟨q, s₂⟩
    obtain ⟨hq, hs₂⟩ := Wait.roundTrip_spec hrt
    have hm₂ : Moves u c o s s₂ := hm₁.trans (hs₂ ▸ Moves.of_tokens hm₁.live _ _)
    have hfree₂ : (s₂.world.units[u]?.getD default).lock = .free := by rw [hs₂]; exact hfree₁
    simp only [hrt] at hx
    rcases hq with rfl | rfl
    · -- the transaction is open: the changes are written in it
      have hslot₂ : (s₂.world.contexts[c]?.getD default).txn.isSome := by rw [hs₂]; exact hslot₁ rfl
      rcases hfl : exec (Context.flush c) s₂ with ⟨f, s₃⟩
      obtain ⟨hm₃, hu₃, -⟩ := Context.flush_spec hm₂.live hslot₂ hfl
      have hfree₃ : (s₃.world.units[u]?.getD default).lock = .free := by rw [hu₃]; exact hfree₂
      simp only [hfl] at hx
      cases f with
      | ok n => exact finish (.savedChanges n) _ s₃ (hm₂.trans hm₃) hfree₃ (fun _ => rfl) hx
      | error e => exact finish .saveFailed _ s₃ (hm₂.trans hm₃) hfree₃ (fun _ => rfl) hx
    · simp only at hx
      exact finish .saveFailed _ s₂ hm₂ hfree₂ (fun _ => rfl) hx

theorem Context.save_keeps (h : Hooks σ) (wait : Wait) : KeepsSteady (σ := σ) u c o (Context.save h c wait) :=
  fun _ _ _ hl hst hx => Context.save_spec hl hst.lock_free hx

/-! ### Queries and raw commands -/

theorem Context.beforeCommand_exec (h : Hooks σ) {s : Sys σ} (hl : Live u c o s.world) :
    exec (Context.beforeCommand h c) s =
      (if (s.world.observers[o]?.getD default).aborted then .error .aborted else .ok (), s) := by
  rw [Context.beforeCommand, Context.guardEach_exec h _ _ hl,
    Observer.guard_exec h _ hl.command_listeners]

/-- Before a reader runs, the observer saves the unit's pending changes if its flush mode
asks for it. -/
theorem Context.beforeReader_keeps (h : Hooks σ) (wait : Wait) :
    KeepsSteady (σ := σ) u c o (Context.beforeReader h c wait) := by
  intro s s' r hl hst hx
  simp only [Context.beforeReader, Context.interceptorsNow, exec_bind, exec_world, World.context_eq,
    hl.interceptors, exec_pure, List.forM, Observer.beforeReader, World.observer_eq,
    Context.hasPending] at hx
  by_cases hflush : Observer.flushesBeforeReader (s.world.observers[o]?.getD default)
      (s.world.contexts[c]?.getD default).tracker.hasPending = true
  · simp only [hflush, if_true, hl.observer_unit, exec_bind, UnitOfWork.context_exec hl.unit_context,
      exec_pure] at hx
    rcases hs : exec (Context.save h c wait) s with ⟨q, s₁⟩
    obtain ⟨hm₁, hst₁⟩ := Context.save_keeps h wait hl hst hs
    rw [hs] at hx
    cases q <;> obtain ⟨rfl, rfl⟩ := Prod.mk.inj hx <;> exact ⟨hm₁, hst₁⟩
  · simp only [hflush, Bool.false_eq_true, if_false, exec_pure] at hx
    obtain ⟨rfl, rfl⟩ := Prod.mk.inj hx
    exact ⟨Moves.refl hl, hst⟩

theorem Context.beforeCommand_keeps (h : Hooks σ) :
    KeepsSteady (σ := σ) u c o (Context.beforeCommand h c) := by
  intro s s' r hl hst hx
  rw [Context.beforeCommand_exec h hl] at hx
  obtain ⟨-, rfl⟩ := Prod.mk.inj hx
  exact ⟨Moves.refl hl, hst⟩

/-- Reading what the connection sees changes nothing. -/
theorem Context.view_exec_state (c : Nat) (s : Sys σ) : (exec (Context.view c) s).2 = s := by
  simp only [Context.view, Context.currentTxn, exec_bind, exec_world, exec_pure, exec_database,
    Database.view_run_state]

theorem Context.view_keeps : KeepsSteady (σ := σ) u c o (Context.view c) := by
  intro s s' r hl hst hx
  have hs' : s' = s := by rw [← Context.view_exec_state c s, hx]
  subst hs'
  exact ⟨Moves.refl hl, hst⟩

/-- Reading an entity tracks it if it was not, which tells the observer nothing that
changes its saving. -/
theorem Context.readEntity_keeps (h : Hooks σ) (k : Key) :
    KeepsSteady (σ := σ) u c o (Context.readEntity h c k) := by
  unfold Context.readEntity
  refine .bind Context.view_keeps fun tables => .bind .world fun w => ?_
  split
  · exact .pure _
  · split
    · exact .pure _
    · exact .bind (Context.onTracker_keeps _) fun _ =>
        .bind (Context.notifyEach_keeps h fun _ => by simp) fun _ => .pure _

theorem Context.find_keeps (h : Hooks σ) (k : Key) (wait : Wait) :
    KeepsSteady (σ := σ) u c o (Context.find h c k wait) :=
  .bind (Context.beforeCommand_keeps h) fun _ => .bind (Context.beforeReader_keeps h wait) fun _ =>
    .bind (.roundTrip wait) fun _ => Context.readEntity_keeps h k

theorem Context.count_keeps (h : Hooks σ) (table : String) (wait : Wait) :
    KeepsSteady (σ := σ) u c o (Context.count h c table wait) :=
  .bind (Context.beforeCommand_keeps h) fun _ => .bind (Context.beforeReader_keeps h wait) fun _ =>
    .bind (.roundTrip wait) fun _ => .bind Context.view_keeps fun _ => .pure _

/-- Before a raw command outside a save, the observer starts the unit's transaction: when
it lets the command run, the transaction is open. -/
theorem Observer.beforeCommand_spec {h : Hooks σ} {wait : Wait} {s s' : Sys σ}
    {r : Except Fault Enlistment} (hl : Live u c o s.world) (hst : Steady u o s.world)
    (hx : exec (Observer.beforeCommand h o c wait) s = (r, s')) :
    Moves u c o s s' ∧ Steady u o s'.world ∧
      ∀ a, r = .ok a → (s'.world.contexts[c]?.getD default).txn.isSome := by
  simp only [Observer.beforeCommand, exec_bind, exec_world, World.observer_eq, hst.not_saving,
    Bool.false_eq_true, if_false, Context.currentTxn, exec_pure, World.context_eq,
    hl.observer_unit] at hx
  rcases ht : exec (UnitOfWork.tryStart h u wait) s with ⟨q, s₁⟩
  obtain ⟨hm₁, hfree₁, ho₁, hslot₁⟩ := UnitOfWork.tryStart_spec hl hst.lock_free ht
  have hst₁ : Steady u o s₁.world := ⟨hfree₁, by rw [ho₁]; exact hst.not_saving⟩
  rw [ht] at hx
  cases q with
  | error e =>
    obtain ⟨rfl, rfl⟩ := Prod.mk.inj hx
    exact ⟨hm₁, hst₁, fun _ h => nomatch h⟩
  | ok b =>
    obtain ⟨rfl, rfl⟩ := Prod.mk.inj hx
    exact ⟨hm₁, hst₁, fun _ _ => hslot₁ b rfl⟩

/-- A raw command runs in the unit's transaction, which the observer starts before it. -/
theorem Context.executeRaw_keeps (h : Hooks σ) (change : Change) (wait : Wait) :
    KeepsSteady (σ := σ) u c o (Context.executeRaw h c change wait) := by
  refine .bind (Context.beforeCommand_keeps h) fun _ => ?_
  intro s s' r hl hst hx
  simp only [Context.interceptorsNow, exec_bind, exec_world, World.context_eq, hl.interceptors,
    exec_pure, List.forM] at hx
  rcases hb : exec (Observer.beforeCommand h o c wait) s with ⟨q, s₁⟩
  obtain ⟨hm₁, hst₁, hslot₁⟩ := Observer.beforeCommand_spec hl hst hb
  rw [hb] at hx
  cases q with
  | error e =>
    obtain ⟨rfl, rfl⟩ := Prod.mk.inj hx
    exact ⟨hm₁, hst₁⟩
  | ok a =>
    rcases hrt : exec wait.roundTrip s₁ with ⟨q₂, s₂⟩
    obtain ⟨hm₂, hst₂⟩ := KeepsSteady.roundTrip wait hm₁.live hst₁ hrt
    have hslot₂ : (s₂.world.contexts[c]?.getD default).txn.isSome := by
      obtain ⟨-, hs₂⟩ := Wait.roundTrip_spec hrt
      rw [hs₂]
      exact hslot₁ a rfl
    simp only [hrt] at hx
    cases q₂ with
    | error e =>
      obtain ⟨rfl, rfl⟩ := Prod.mk.inj hx
      exact ⟨hm₁.trans hm₂, hst₂⟩
    | ok _ =>
      obtain ⟨hm₃, hu₃, ho₃, -⟩ := Context.writeChanges_spec hm₂.live hslot₂ hx
      exact ⟨(hm₁.trans hm₂).trans hm₃, hst₂.of_eq hu₃ (by rw [ho₃])⟩

/-! ### Every operation -/

/-- Every operation of work keeps a live unit steady. -/
theorem Op.run_keeps (h : Hooks σ) (wait : Wait) (op : Op) :
    KeepsSteady (σ := σ) u c o (op.run h c wait) := by
  cases op with
  | add k v => exact .bind (Context.add_keeps h k v) fun _ => .pure _
  | update k v => exact .bind (Context.update_keeps h k v) fun _ => .pure _
  | remove k => exact .bind (Context.remove_keeps h k) fun _ => .pure _
  | modifyUntracked k v => exact .bind (Context.onTracker_keeps _) fun _ => .pure _
  | find k => exact .bind (Context.find_keeps h k wait) fun _ => .pure _
  | count table => exact .bind (Context.count_keeps h table wait) fun _ => .pure _
  | raw change => exact .bind (Context.executeRaw_keeps h change wait) fun _ => .pure _
  | save => exact .bind (Context.save_keeps h wait) fun _ => .pure _

end ScopedWork

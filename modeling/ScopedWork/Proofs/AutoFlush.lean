import ScopedWork.Proofs.Root.Operations
import ScopedWork.Proofs.Attempt.Kept
import ScopedWork.Proofs.Coherent

/-!
# Auto-flush: a query saves first exactly as its unit is configured

Before every query on its context, the observer of a unit of work decides whether to save
the pending changes first. It saves when flushing is enabled for it (preparing a unit for
scoped execution enables it unless the flush mode is `off`), it is not saving already, and
either it has seen an explicit change (an add, an update or a remove, noted when its mode
looks for them) since the last successful save, or its mode also looks at implicit changes
and the context has pending changes.

`Flags` ties the observer's flags to what happened: `g` says whether an explicit change
succeeded since the last successful save, the saves that queries run first included. On a
context whose only interceptor is the observer (`Watched`), every operation keeps `Flags`,
with `g` moved on by `explicitAfter`, and every query runs as `QueryRuns` says: it is its
read, after a save exactly when `AutoFlush.flushes` says so. The main statement,
`queries_flush_as_configured`, says so of any sequence of operations.
-/

namespace ScopedWork

open Act

variable {σ : Type}

namespace AutoFlush

/-- Whether a query saves first: flushing is enabled, and an explicit change succeeded since
the last successful save while the mode looks for them, or the mode looks at implicit changes
too and the tracker has pending changes. -/
def flushes (mode : AutoFlush) (enabled g : Bool) (t : Tracker) : Bool :=
  enabled && ((g && mode != .off) || (mode == .explicitAndImplicit && t.hasPending))

/-- With flushing disabled or the mode `off`, no query saves. -/
theorem flushes_eq_false {mode : AutoFlush} {enabled : Bool} (h : enabled = false ∨ mode = .off)
    (g : Bool) (t : Tracker) : mode.flushes enabled g t = false := by
  rcases h with rfl | rfl <;> simp [flushes]

/-- With nothing pending and no explicit change since the last successful save, no query saves. -/
theorem flushes_of_settled {mode : AutoFlush} {enabled : Bool} {t : Tracker} (ht : t.hasPending = false) :
    mode.flushes enabled false t = false := by
  simp [flushes, ht]

/-- Preparing a unit for scoped execution enables flushing unless the mode is `off`: a query
then saves first when the mode looks at implicit changes and changes are pending, or when the
mode looks for explicit changes and one succeeded since the last successful save. -/
theorem flushes_promoted (mode : AutoFlush) (g : Bool) (t : Tracker) :
    mode.flushes (mode != .off) g t = ((mode == .explicitAndImplicit && t.hasPending) || (g && mode != .off)) := by
  unfold flushes
  cases mode <;> cases g <;> cases t.hasPending <;> rfl

end AutoFlush

/-! ### What the tracker's operations do to added entities and pending changes -/

namespace Tracked

variable (e : Tracked)

/-- An entity has a change to write exactly when it is pending. -/
theorem change_isSome (k : Key) : (e.change k).isSome = e.pending := by
  unfold change pending
  cases hs : e.state with
  | unchanged =>
    simp only [EntityState.isPending, Bool.false_or]
    cases e.implicitlyModified <;> rfl
  | detached => simp [EntityState.isPending, implicitlyModified, hs]
  | added | modified | deleted => rfl

theorem accepted_state_ne_added : e.accepted.state ≠ .added := by
  cases hs : e.state with
  | unchanged =>
    simp only [accepted, hs]
    split <;> simp [settled, hs]
  | added | modified | deleted | detached => simp [accepted, settled, hs]

theorem pending_settled (version : Nat) : (e.settled version).pending = false := by
  simp [settled, pending, implicitlyModified, EntityState.isPending]

/-- After a successful save an entity that stays tracked has nothing pending. -/
theorem pending_accepted (hdel : e.state ≠ .deleted) : e.accepted.pending = false := by
  cases hs : e.state with
  | added | modified =>
    simp only [accepted, hs]
    exact e.pending_settled _
  | unchanged =>
    simp only [accepted, hs]
    split
    · exact e.pending_settled _
    · rename_i himp
      simp only [pending, hs, EntityState.isPending, Bool.false_or]
      exact Bool.eq_false_iff.mpr himp
  | deleted => exact absurd hs hdel
  | detached => simp [accepted, pending, implicitlyModified, hs, EntityState.isPending]

end Tracked

namespace Tracker

variable {t t' : Tracker} {k : Key} {v : Value} {st : EntityState}

/-- No entity is tracked as added. -/
def NoneAdded (t : Tracker) : Prop := ∀ p ∈ t.entries, p.2.state ≠ .added

theorem NoneAdded.put (hn : t.NoneAdded) {e : Tracked} (he : e.state ≠ .added) : (t.put k e).NoneAdded := by
  intro q hq
  simp only [Tracker.put, List.mem_map] at hq
  obtain ⟨p, hp, rfl⟩ := hq
  split
  · exact he
  · exact hn p hp

theorem NoneAdded.trackLoaded (hn : t.NoneAdded) {version : Nat} (h : t.trackLoaded k v version = .ok t') :
    t'.NoneAdded := by
  unfold Tracker.trackLoaded at h
  split at h
  · cases h
  · cases h
    intro p hp
    rcases List.mem_cons.mp ((insertSorted_perm k _ t.entries).mem_iff.mp hp) with rfl | hp
    · exact nofun
    · exact hn p hp

theorem NoneAdded.modifyUntracked (hn : t.NoneAdded) (h : t.modifyUntracked k v = .ok t') :
    t'.NoneAdded := by
  unfold Tracker.modifyUntracked at h
  cases hf : t.find? k with
  | none => simp [hf] at h
  | some e =>
    simp only [hf, Except.ok.injEq] at h
    subst h
    exact hn.put (hn _ (mem_of_find? hf))

theorem noneAdded_acceptChanges (t : Tracker) : t.acceptChanges.NoneAdded := by
  intro p hp
  obtain ⟨e, -, -, hpe⟩ := mem_acceptChanges hp
  rw [hpe]
  exact e.accepted_state_ne_added

/-- After a successful save nothing is pending. -/
theorem hasPending_acceptChanges (t : Tracker) : t.acceptChanges.hasPending = false := by
  simp only [Tracker.hasPending, List.any_eq_false]
  intro p hp
  obtain ⟨e, -, hdel, hpe⟩ := mem_acceptChanges hp
  rw [hpe, e.pending_accepted hdel]
  exact Bool.false_ne_true

/-- Nothing to write means nothing pending. -/
theorem hasPending_of_detectChanges (h : t.detectChanges = []) : t.hasPending = false := by
  rw [detectChanges_eq, List.filterMap_eq_nil_iff] at h
  simp only [Tracker.hasPending, List.any_eq_false]
  intro p hp
  rw [← p.2.change_isSome p.1, h p hp]
  exact Bool.false_ne_true

/-- An added entity has an insert to write. -/
theorem noneAdded_of_detectChanges (h : t.detectChanges = []) : t.NoneAdded := by
  rw [detectChanges_eq, List.filterMap_eq_nil_iff] at h
  intro p hp hadd
  have := h p hp
  simp [Tracked.change, hadd] at this

/-- An update that succeeds leaves the entity pending. -/
theorem modify_isPending (h : t.modify k v = .ok (t', st)) : st.isPending = true := by
  unfold Tracker.modify at h
  cases hf : t.find? k with
  | none => simp [hf] at h
  | some e =>
    simp only [hf] at h
    split at h
    · cases h
    · simp only [Except.ok.injEq, Prod.mk.injEq] at h
      obtain ⟨-, rfl⟩ := h
      split <;> rfl

/-- A remove that succeeds leaves the entity deleted, unless it was added and is forgotten. -/
theorem remove_isPending (hn : t.NoneAdded) (h : t.remove k = .ok (t', st)) : st.isPending = true := by
  unfold Tracker.remove at h
  cases hf : t.find? k with
  | none => simp [hf] at h
  | some e =>
    simp only [hf] at h
    split at h
    · rename_i hadd
      exact absurd (by simpa using hadd) (hn _ (mem_of_find? hf))
    · simp only [Except.ok.injEq, Prod.mk.injEq] at h
      obtain ⟨-, rfl⟩ := h
      rfl

end Tracker

namespace ObserverState

@[simp] theorem autoFlush_noticed (x : ObserverState) (n : Notice) : (x.noticed n).autoFlush = x.autoFlush := by
  cases n <;> simp only [noticed] <;> split <;> rfl

@[simp] theorem flushEnabled_noticed (x : ObserverState) (n : Notice) :
    (x.noticed n).flushEnabled = x.flushEnabled := by
  cases n <;> simp only [noticed] <;> split <;> rfl

@[simp] theorem unit_noticed (x : ObserverState) (n : Notice) : (x.noticed n).unit = x.unit :=
  congrArg (·.1) (shape_noticed x n)

theorem watchesExplicit_eq (x : ObserverState) : x.watchesExplicit = (x.autoFlush != .off) := by
  unfold watchesExplicit
  cases x.autoFlush <;> rfl

@[simp] theorem autoFlush_foldl_noticed (x : ObserverState) (ns : List Notice) :
    (ns.foldl noticed x).autoFlush = x.autoFlush := by
  induction ns generalizing x with
  | nil => rfl
  | cons n ns ih => simp [List.foldl, ih]

@[simp] theorem flushEnabled_foldl_noticed (x : ObserverState) (ns : List Notice) :
    (ns.foldl noticed x).flushEnabled = x.flushEnabled := by
  induction ns generalizing x with
  | nil => rfl
  | cons n ns ih => simp [List.foldl, ih]

/-- An add is an explicit change, a find that tracks an entity is not. -/
@[simp] theorem explicitChanges_noticed_entityTracked (x : ObserverState) (b : Bool) :
    (x.noticed (.entityTracked b)).explicitChanges = ((!b && x.autoFlush != .off) || x.explicitChanges) := by
  simp only [noticed, ← watchesExplicit_eq]
  split <;> simp_all

/-- A change of state is explicit when it leaves the entity pending. -/
@[simp] theorem explicitChanges_noticed_stateChanged (x : ObserverState) (st : EntityState) :
    (x.noticed (.stateChanged st)).explicitChanges =
      ((st.isPending && x.autoFlush != .off) || x.explicitChanges) := by
  simp only [noticed, ← watchesExplicit_eq]
  split <;> simp_all

end ObserverState

/-! ### A context watched by its unit's observer alone -/

/-- The observer `o` of unit `u` is the only interceptor of the unit's context `c`, listens to
nothing and is not invalidated: no hook of the host program is ever called on `c`, and no guard
of the observer refuses. -/
structure Watched (u c o : Nat) (w : World) : Prop where
  interceptors : (w.contexts[c]?.getD default).interceptors = [.observer o]
  unit : (w.observers[o]?.getD default).unit = u
  context : (w.units[u]?.getD default).context = some c
  startListeners : (w.observers[o]?.getD default).startListeners = []
  commandListeners : (w.observers[o]?.getD default).commandListeners = []
  live : (w.observers[o]?.getD default).aborted = false
  observer_lt : o < w.observers.size

/-- The observer's flags between operations, with `g` whether an explicit change succeeded
since the last successful save: its mode is `mode`, flushing is enabled as `enabled`, it is not
saving, it has seen an explicit change exactly when `g` holds and its mode looks for them, and
an entity is tracked as added only after such a change. -/
structure Flags (c o : Nat) (mode : AutoFlush) (enabled g : Bool) (w : World) : Prop where
  autoFlush : (w.observers[o]?.getD default).autoFlush = mode
  flushEnabled : (w.observers[o]?.getD default).flushEnabled = enabled
  idle : (w.observers[o]?.getD default).saving = false
  explicit : (w.observers[o]?.getD default).explicitChanges = (g && mode != .off)
  added : g = false → (w.contexts[c]?.getD default).tracker.NoneAdded

/-- What a step of a save leaves alone: the interceptors of context `c`, the observers, and
the context of unit `u`. -/
structure Near (u c : Nat) (w₀ w : World) : Prop where
  interceptors : (w.contexts[c]?.getD default).interceptors = (w₀.contexts[c]?.getD default).interceptors
  observers : w.observers = w₀.observers
  context : (w.units[u]?.getD default).context = (w₀.units[u]?.getD default).context

/-- What a step that neither tracks nor notifies leaves alone: the tracker of context `c` too. -/
structure Still (u c : Nat) (w₀ w : World) : Prop extends Near u c w₀ w where
  tracker : (w.contexts[c]?.getD default).tracker = (w₀.contexts[c]?.getD default).tracker

variable {u c o : Nat} {mode : AutoFlush} {enabled g : Bool} {w₀ w₁ w : World}

theorem Flags.flushesBeforeReader (hf : Flags c o mode enabled g w) :
    Observer.flushesBeforeReader (w.observers[o]?.getD default) (w.contexts[c]?.getD default).tracker.hasPending =
      mode.flushes enabled g (w.contexts[c]?.getD default).tracker := by
  simp [Observer.flushesBeforeReader, AutoFlush.flushes, hf.idle, hf.flushEnabled, hf.explicit, hf.autoFlush]

/-- Preparing a unit for scoped execution with mode `a` enables flushing unless `a` is `off`:
once the observer has seen no explicit change and no entity is tracked as added, its flags agree
with `g = false`. -/
theorem Flags.of_prepared {a : AutoFlush} (hk : Execution.Prepared u c o a w)
    (hidle : (w.observers[o]?.getD default).saving = false)
    (hexp : (w.observers[o]?.getD default).explicitChanges = false)
    (hn : (w.contexts[c]?.getD default).tracker.NoneAdded) : Flags c o a (a != .off) false w :=
  ⟨congrArg (·.1) hk.flushing, congrArg (·.2) hk.flushing, hidle, hexp, fun _ => hn⟩

namespace Near

theorem watched (hs : Near u c w₀ w) (hw : Watched u c o w₀) : Watched u c o w where
  interceptors := hs.interceptors.trans hw.interceptors
  unit := by rw [hs.observers]; exact hw.unit
  context := hs.context.trans hw.context
  startListeners := by rw [hs.observers]; exact hw.startListeners
  commandListeners := by rw [hs.observers]; exact hw.commandListeners
  live := by rw [hs.observers]; exact hw.live
  observer_lt := by rw [hs.observers]; exact hw.observer_lt

theorem trans (h₁ : Near u c w₀ w₁) (h₂ : Near u c w₁ w) : Near u c w₀ w :=
  ⟨h₂.interceptors.trans h₁.interceptors, h₂.observers.trans h₁.observers, h₂.context.trans h₁.context⟩

/-- A change of a context's tracker. -/
theorem setTracker (hs : Near u c w₀ w) (c' : Nat) (t : Tracker) :
    Near u c w₀ { w with contexts := w.contexts.modify c' fun _ => { w.contexts[c']?.getD default with tracker := t } } :=
  ⟨(World.getD_modify_view _ _ _ _ _ ContextState.interceptors rfl).trans hs.interceptors, hs.observers, hs.context⟩

end Near

namespace Still

theorem refl (w : World) : Still u c w w := ⟨⟨rfl, rfl, rfl⟩, rfl⟩

theorem trans (h₁ : Still u c w₀ w₁) (h₂ : Still u c w₁ w) : Still u c w₀ w :=
  ⟨h₁.toNear.trans h₂.toNear, h₂.tracker.trans h₁.tracker⟩

theorem watched (hs : Still u c w₀ w) (hw : Watched u c o w₀) : Watched u c o w :=
  hs.toNear.watched hw

theorem flags (hs : Still u c w₀ w) (hf : Flags c o mode enabled g w₀) : Flags c o mode enabled g w where
  autoFlush := by rw [hs.observers]; exact hf.autoFlush
  flushEnabled := by rw [hs.observers]; exact hf.flushEnabled
  idle := by rw [hs.observers]; exact hf.idle
  explicit := by rw [hs.observers]; exact hf.explicit
  added hg := by rw [hs.tracker]; exact hf.added hg

/-- A change of the database alone. -/
theorem db (hs : Still u c w₀ w) (db : Database) : Still u c w₀ { w with db } :=
  ⟨⟨hs.interceptors, hs.observers, hs.context⟩, hs.tracker⟩

/-- A change of a context that keeps its tracker and interceptors. -/
theorem setContext (hs : Still u c w₀ w) (c' : Nat) (x : ContextState)
    (hx : x.tracker = (w.contexts[c']?.getD default).tracker ∧
      x.interceptors = (w.contexts[c']?.getD default).interceptors) :
    Still u c w₀ { w with contexts := w.contexts.modify c' fun _ => x } where
  interceptors := (World.getD_modify_view _ _ _ _ _ ContextState.interceptors hx.2).trans hs.interceptors
  tracker := (World.getD_modify_view _ _ _ _ _ ContextState.tracker hx.1).trans hs.tracker
  observers := hs.observers
  context := hs.context

/-- A change of a unit that keeps its context. -/
theorem setUnit (hs : Still u c w₀ w) (u' : Nat) (x : UnitState)
    (hx : x.context = (w.units[u']?.getD default).context) :
    Still u c w₀ { w with units := w.units.modify u' fun _ => x } where
  interceptors := hs.interceptors
  tracker := hs.tracker
  observers := hs.observers
  context := (World.getD_modify_view _ _ _ _ _ UnitState.context hx).trans hs.context

end Still

/-! ### Steps that leave the observer's view alone

Starting the unit's transaction, waiting for the database and writing changes leave the
observer, the tracker and the interceptors of the context as they were. On a watched context no
hook of the host program runs in these steps: every question goes to the observer alone. -/

section Quiet

variable {h : Hooks σ} (hw : Watched u c o w₀)

theorem Wait.roundTrip_still (wait : Wait) : Keeps (σ := σ) (Still u c w₀) wait.roundTrip := by
  intro s s' r hs hx
  obtain ⟨-, hs'⟩ := Wait.roundTrip_spec hx
  rw [hs']
  exact ⟨⟨hs.interceptors, hs.observers, hs.context⟩, hs.tracker⟩

theorem database_still {α : Type} (x : Database.Step α) : Keeps (σ := σ) (Still u c w₀) (Act.database x) :=
  .database (fun _ db hs => hs.db db) x

theorem Context.modify_still (c' : Nat) {f : ContextState → ContextState}
    (hf : ∀ x, (f x).tracker = x.tracker ∧ (f x).interceptors = x.interceptors) :
    Keeps (σ := σ) (Still u c w₀) (Context.modify c' f) :=
  .modifyWorld fun w hs => by
    simp only [World.setContext_eq, World.context_eq]
    exact hs.setContext c' _ (hf _)

theorem UnitOfWork.modify_still (u' : Nat) {f : UnitState → UnitState} (hf : ∀ x, (f x).context = x.context) :
    Keeps (σ := σ) (Still u c w₀) (UnitOfWork.modify u' f) :=
  .modifyWorld fun w hs => by
    simp only [World.setUnit_eq, World.unit_eq]
    exact hs.setUnit u' _ (hf _)

theorem UnitOfWork.locked_still {α : Type} (u' : Nat) {body : Act σ α} (hb : Keeps (Still u c w₀) body) :
    Keeps (Still u c w₀) (UnitOfWork.locked u' body) := by
  refine .bind ?_ fun _ => .bind (.outcome hb) fun _ =>
    .bind (UnitOfWork.modify_still u' fun _ => rfl) fun _ => .ofExcept _
  refine .bind (UnitOfWork.get_framed u') fun x => ?_
  split
  · exact UnitOfWork.modify_still u' fun _ => rfl
  · exact .throw _
  · exact .throw _

theorem Context.writeChanges_still (c' : Nat) (cs : List Change) :
    Keeps (σ := σ) (Still u c w₀) (Context.writeChanges c' cs) := by
  refine .bind (Context.currentTxn_framed c') fun t => ?_
  split
  · exact database_still _
  · exact .bind (database_still _) fun _ => .bind (.outcome (database_still _)) fun
      | .ok _ => .bind (database_still _) fun _ => .pure _
      | .error _ => .bind (database_still _) fun _ => .throw _

theorem Context.view_still (c' : Nat) : Keeps (σ := σ) (Still u c w₀) (Context.view c') :=
  .bind (Context.currentTxn_framed c') fun _ => database_still _

theorem Observer.guard_still (sel : ObserverState → List Nat) (hsel : sel (w₀.observers[o]?.getD default) = []) :
    Keeps (σ := σ) (Still u c w₀) (Observer.guard h o sel) := by
  intro s s' r hs hx
  rw [Observer.guard_exec h sel (by rw [hs.observers]; exact hsel)] at hx
  rw [← (Prod.mk.inj hx).2]
  exact hs

include hw

theorem Context.guardEach_still (g : Guard) {onObserver : Nat → Act σ Unit}
    (ho : Keeps (Still u c w₀) (onObserver o)) : Keeps (Still u c w₀) (Context.guardEach h c g onObserver) := by
  intro s s' r hs hx
  rw [Context.guardEach_of_interceptors h g onObserver (hs.watched hw).interceptors] at hx
  exact ho hs hx

theorem Context.failedThrough_still (a : TxnAction) (e : Fault) :
    Keeps (Still u c w₀) (Context.failedThrough h c a e) := by
  intro s s' r hs hx
  rw [Context.failedThrough_of_interceptors h a e (hs.watched hw).interceptors] at hx
  rw [← (Prod.mk.inj hx).2]
  exact hs

/-- Beginning a transaction on the watched context puts it in the context's slot, which keeps
its tracker and interceptors. -/
theorem Context.begin_still (iso : Option Isolation) (wait : Wait) :
    Keeps (Still u c w₀) (Context.begin h c iso wait) := by
  refine .bind (Wait.roundTrip_still wait) fun _ =>
    .bind (Context.guardEach_still hw _ (Observer.guard_still _ hw.startListeners)) fun _ => ?_
  refine .bind (Context.hasTxn_framed c) fun _ => ?_
  split
  · -- the connection is in a transaction already
    exact Keeps.of_world_eq fun _ _ _ hx => by
      simp only [exec_bind, exec_throw, Prod.mk.injEq] at hx
      rw [← hx.2]
  · refine .bind (.bind (.pure _) fun _ => .outcome (database_still _)) fun q => ?_
    cases q with
    | ok _ => exact .bind (Context.modify_still c fun _ => ⟨rfl, rfl⟩) fun _ => .pure _
    | error e => exact .bind (Context.failedThrough_still hw .begin e) fun _ => .throw _

/-- Starting the unit's transaction begins it on the watched context, under the unit's lock. -/
theorem UnitOfWork.tryStart_still (wait : Wait) : Keeps (Still u c w₀) (UnitOfWork.tryStart h u wait) := by
  intro s s' r hs hx
  rw [UnitOfWork.tryStart, exec_bind, UnitOfWork.context_exec (hs.watched hw).context] at hx
  refine (Keeps.bind (Context.hasTxn_framed c) fun _ => ?_) hs hx
  split
  · exact .pure _
  · refine UnitOfWork.locked_still u (.bind (Context.hasTxn_framed c) fun _ => ?_)
    split
    · exact .pure _
    · exact .bind UnitOfWork.ensureNoExternal_framed fun _ => .bind (UnitOfWork.isolation_framed u) fun iso =>
        .bind (Context.begin_still hw iso wait) fun _ => .pure _

/-- Before a raw command the observer starts the unit's transaction, unless it is saving. -/
theorem Observer.beforeCommand_still (wait : Wait) : Keeps (Still u c w₀) (Observer.beforeCommand h o c wait) := by
  intro s s' r hs hx
  rw [Observer.beforeCommand, exec_bind, exec_world] at hx
  dsimp only at hx
  rw [World.observer_eq, (hs.watched hw).unit] at hx
  split at hx
  · obtain ⟨-, rfl⟩ := Prod.mk.inj hx
    exact hs
  · exact (Keeps.bind (Context.currentTxn_framed c) fun _ => .bind (UnitOfWork.tryStart_still hw wait) fun _ =>
      .bind (Context.currentTxn_framed c) fun _ => .pure _) hs hx

/-- A raw command asks the observer alone and writes its change: the observer's view stays. -/
theorem Context.executeRaw_still (change : Change) (wait : Wait) :
    Keeps (Still u c w₀) (Context.executeRaw h c change wait) := by
  refine .bind (Context.guardEach_still hw _ (Observer.guard_still _ hw.commandListeners)) fun _ => ?_
  refine .bind_of_ok (Context.interceptorsNow_framed c) fun s _ is hs his => ?_
  have his' : is = [.observer o] := by
    simp only [Context.interceptorsNow, exec_bind, exec_world, exec_pure, World.context_eq, Prod.mk.injEq,
      Except.ok.injEq] at his
    rw [← his.1, (hs.watched hw).interceptors]
  subst his'
  refine .bind (.forM fun a ha => ?_) fun _ => .bind (Wait.roundTrip_still wait) fun _ => Context.writeChanges_still c _
  rw [List.mem_singleton] at ha
  subst ha
  exact .bind (Observer.beforeCommand_still hw wait) fun _ => .pure _

end Quiet

/-! ### Tracking and telling the observer -/

/-- Between operations: the context is watched by the observer alone, whose flags are as `g`
says. -/
structure Observing (u c o : Nat) (mode : AutoFlush) (enabled g : Bool) (w : World) : Prop
    extends Watched u c o w, Flags c o mode enabled g w

theorem Watched.context_lt (hw : Watched u c o w) : c < w.contexts.size := by
  refine Nat.lt_of_not_le fun hle => ?_
  have hi := hw.interceptors
  rw [Array.getElem?_eq_none hle] at hi
  cases hi

/-- A step that keeps context `c`'s interceptors, the shape and the invalidation of observer
`o`, the number of observers and unit `u`'s context keeps the context watched. -/
theorem Watched.of_views {w' : World} (hw : Watched u c o w)
    (hi : (w'.contexts[c]?.getD default).interceptors = (w.contexts[c]?.getD default).interceptors)
    (hshape : (w'.observers[o]?.getD default).shape = (w.observers[o]?.getD default).shape)
    (hab : (w'.observers[o]?.getD default).aborted = (w.observers[o]?.getD default).aborted)
    (hsize : w'.observers.size = w.observers.size)
    (hu : (w'.units[u]?.getD default).context = (w.units[u]?.getD default).context) : Watched u c o w' where
  interceptors := hi.trans hw.interceptors
  unit := (congrArg (·.1) hshape).trans hw.unit
  context := hu.trans hw.context
  startListeners := (congrArg (·.2.2.1) hshape).trans hw.startListeners
  commandListeners := (congrArg (·.2.2.2) hshape).trans hw.commandListeners
  live := hab.trans hw.live
  observer_lt := hsize ▸ hw.observer_lt

theorem Observing.of_still {w' : World} (hb : Observing u c o mode enabled g w) (hs : Still u c w w') :
    Observing u c o mode enabled g w' :=
  ⟨hs.watched hb.toWatched, hs.flags hb.toFlags⟩

/-- What keeps the observer's view keeps it observing. -/
theorem Observing.keeps {α : Type} {x : Act σ α} (hx : ∀ w₀, Watched u c o w₀ → Keeps (Still u c w₀) x) :
    Keeps (Observing u c o mode enabled g) x :=
  fun s _ _ hb h => hb.of_still (hx s.world hb.toWatched (Still.refl s.world) h)

section Tracking

variable {h : Hooks σ} {s : Sys σ}

theorem Context.onTracker_exec_getD {α : Type} (f : Tracker → Except Fault (Tracker × α)) :
    exec (Context.onTracker c f) s =
      match f (s.world.contexts[c]?.getD default).tracker with
      | .ok (t, a) => (.ok a, { s with world := { s.world with
          contexts := s.world.contexts.modify c fun _ => { s.world.contexts[c]?.getD default with tracker := t } } })
      | .error e => (.error e, s) := by
  simp only [Context.onTracker, Context.modify, exec_bind, exec_world, World.context_eq, exec_ofExcept,
    World.setContext_eq]
  cases f (s.world.contexts[c]?.getD default).tracker with
  | error e => rfl
  | ok p => rfl

/-- Tracking with `f` and then telling the observer of `ns`: on success the context has the
new tracker and the observer has heard of every notice. -/
theorem Context.onTracker_notify {α : Type} (f : Tracker → Except Fault (Tracker × α))
    (ns : α → List Notice) (hw : Watched u c o s.world) :
    exec (Context.onTracker c f >>= fun a => Context.notifyEach h c (ns a)) s =
      match f (s.world.contexts[c]?.getD default).tracker with
      | .ok (t, a) => (.ok (), { s with world := { s.world with
          contexts := s.world.contexts.modify c fun _ => { s.world.contexts[c]?.getD default with tracker := t }
          observers := s.world.observers.modify o fun _ =>
            (ns a).foldl ObserverState.noticed (s.world.observers[o]?.getD default) } })
      | .error e => (.error e, s) := by
  rw [exec_bind, Context.onTracker_exec_getD]
  cases f (s.world.contexts[c]?.getD default).tracker with
  | error e => rfl
  | ok p =>
    obtain ⟨t, a⟩ := p
    refine Context.notifyEach_of_interceptors h (ns a) ?_ hw.observer_lt
    simp only [World.getD_modify_of_lt _ _ _ hw.context_lt, if_true]
    exact hw.interceptors

/-- After the observer hears of `ns` the context is still watched. -/
theorem Watched.noticed (hw : Watched u c o w) (ns : List Notice) :
    Watched u c o { w with
      observers := w.observers.modify o fun _ => ns.foldl ObserverState.noticed (w.observers[o]?.getD default) } :=
  hw.of_views rfl (World.getD_modify_view _ _ _ _ _ ObserverState.shape (by simp))
    (World.getD_modify_view _ _ _ _ _ ObserverState.aborted (by simp)) (by simp) rfl

/-- After a tracking step the context is still watched. -/
theorem Watched.tracked (hw : Watched u c o w) (t : Tracker) (ns : List Notice) :
    Watched u c o { w with
      contexts := w.contexts.modify c fun _ => { w.contexts[c]?.getD default with tracker := t }
      observers := w.observers.modify o fun _ => ns.foldl ObserverState.noticed (w.observers[o]?.getD default) } :=
  (((Still.refl w).toNear.setTracker c t).watched hw).noticed ns

/-- After the observer hears of `ns` its flags are as `g'` says, when the notices leave it not
saving and its explicit changes as `g'` says, and an added entity is tracked only with `g'`. -/
theorem Flags.noticed (hw : Watched u c o w) {ns : List Notice} {g' : Bool}
    (hmode : (w.observers[o]?.getD default).autoFlush = mode)
    (hen : (w.observers[o]?.getD default).flushEnabled = enabled)
    (hidle : (ns.foldl ObserverState.noticed (w.observers[o]?.getD default)).saving = false)
    (hexp : (ns.foldl ObserverState.noticed (w.observers[o]?.getD default)).explicitChanges = (g' && mode != .off))
    (hadd : g' = false → (w.contexts[c]?.getD default).tracker.NoneAdded) :
    Flags c o mode enabled g' { w with
      observers := w.observers.modify o fun _ => ns.foldl ObserverState.noticed (w.observers[o]?.getD default) } := by
  have hob : (w.observers.modify o fun _ => ns.foldl ObserverState.noticed (w.observers[o]?.getD default))[o]?.getD
      default = ns.foldl ObserverState.noticed (w.observers[o]?.getD default) := by
    rw [World.getD_modify_of_lt _ _ _ hw.observer_lt, if_pos rfl]
  refine ⟨?_, ?_, ?_, ?_, hadd⟩
  · rw [hob, ObserverState.autoFlush_foldl_noticed]
    exact hmode
  · rw [hob, ObserverState.flushEnabled_foldl_noticed]
    exact hen
  · rw [hob]
    exact hidle
  · rw [hob]
    exact hexp

theorem Watched.tracker_setTracker (hw : Watched u c o w) (t : Tracker) :
    ((w.contexts.modify c fun _ => { w.contexts[c]?.getD default with tracker := t })[c]?.getD default).tracker = t := by
  rw [World.getD_modify_of_lt _ _ _ hw.context_lt, if_pos rfl]

/-- After a tracking step the observer's flags are as `g'` says, when the notices start or end
no save, leave the observer's explicit changes as `g'` says, and an added entity is tracked only
with `g'`. -/
theorem Flags.tracked (hw : Watched u c o w) (hf : Flags c o mode enabled g w) {t : Tracker} {ns : List Notice}
    {g' : Bool} (hns : ∀ x : ObserverState, (ns.foldl ObserverState.noticed x).saving = x.saving)
    (hexp : (ns.foldl ObserverState.noticed (w.observers[o]?.getD default)).explicitChanges = (g' && mode != .off))
    (hadd : g' = false → t.NoneAdded) :
    Flags c o mode enabled g' { w with
      contexts := w.contexts.modify c fun _ => { w.contexts[c]?.getD default with tracker := t }
      observers := w.observers.modify o fun _ => ns.foldl ObserverState.noticed (w.observers[o]?.getD default) } := by
  exact Flags.noticed (((Still.refl w).toNear.setTracker c t).watched hw) hf.autoFlush hf.flushEnabled
    (by rw [hns]; exact hf.idle) hexp fun hg => (congrArg Tracker.NoneAdded (hw.tracker_setTracker t)).mpr (hadd hg)

end Tracking

/-! ### Saving -/

/-- The world once observer `o` has marked itself as saving. -/
def World.savingOn (w : World) (o : Nat) : World :=
  { w with observers := w.observers.modify o fun _ => { w.observers[o]?.getD default with saving := true } }

theorem Watched.savingOn (hw : Watched u c o w) : Watched u c o (w.savingOn o) :=
  hw.of_views rfl (World.getD_modify_view _ _ _ _ _ ObserverState.shape rfl)
    (World.getD_modify_view _ _ _ _ _ ObserverState.aborted rfl) (by simp [World.savingOn]) rfl

section Saving

variable {h : Hooks σ} {s s' : Sys σ} {wait : Wait}

/-- Before a save the observer marks itself as saving and starts the unit's transaction, which
leaves the rest of its view alone. -/
theorem Observer.beforeSave_still {r : Except Fault Unit} (hw : Watched u c o s.world)
    (hx : exec (Observer.beforeSave h o wait) s = (r, s')) : Still u c (s.world.savingOn o) s'.world := by
  have hmark : s.world.setObserver o { s.world.observer o with saving := true } = s.world.savingOn o := by
    simp only [World.setObserver_eq, World.observer_eq, World.savingOn]
  have hunit : ((s.world.savingOn o).observer o).unit = u := by
    rw [World.observer_eq]
    exact hw.savingOn.unit
  rw [Observer.beforeSave, exec_bind, UnitOfWork.modifyObserver, exec_modifyWorld] at hx
  dsimp only at hx
  rw [hmark, exec_bind, exec_world] at hx
  dsimp only at hx
  rw [hunit] at hx
  exact (Keeps.bind (UnitOfWork.tryStart_still hw.savingOn wait) fun _ => .pure _) (Still.refl _) hx

/-- Flushing the watched context changes nothing the observer looks at but the tracker, which
it keeps when it fails and leaves with nothing pending and nothing added when it succeeds. -/
theorem Context.flush_near {r : Except Fault Nat} (hw : Watched u c o s.world)
    (hx : exec (Context.flush c) s = (r, s')) :
    Near u c s.world s'.world ∧
      (r.isOk = false → (s'.world.contexts[c]?.getD default).tracker = (s.world.contexts[c]?.getD default).tracker) ∧
      (r.isOk = true → (s'.world.contexts[c]?.getD default).tracker.NoneAdded ∧
        (s'.world.contexts[c]?.getD default).tracker.hasPending = false) := by
  simp only [Context.flush, exec_bind, exec_world, World.context_eq] at hx
  split at hx
  · next hempty =>
    obtain ⟨rfl, rfl⟩ := Prod.mk.inj hx
    have hnil := List.isEmpty_iff.mp hempty
    exact ⟨(Still.refl _).toNear, (fun h => by cases h),
      fun _ => ⟨Tracker.noneAdded_of_detectChanges hnil, Tracker.hasPending_of_detectChanges hnil⟩⟩
  · rcases h₁ : exec (Context.writeChanges c (s.world.contexts[c]?.getD default).tracker.detectChanges) s with ⟨q, s₁⟩
    have hs₁ : Still u c s.world s₁.world := Context.writeChanges_still c _ (Still.refl _) h₁
    rw [exec_bind, h₁] at hx
    cases q with
    | error e =>
      obtain ⟨rfl, rfl⟩ := Prod.mk.inj hx
      exact ⟨hs₁.toNear, fun _ => hs₁.tracker, (fun h => by cases h)⟩
    | ok n =>
      simp only [Context.modify, exec_bind, exec_modifyWorld, exec_pure, World.setContext_eq,
        World.context_eq] at hx
      obtain ⟨rfl, rfl⟩ := Prod.mk.inj hx
      refine ⟨hs₁.toNear.setTracker c _, (fun h => by cases h), fun _ => ?_⟩
      rw [(hs₁.watched hw).tracker_setTracker]
      exact ⟨Tracker.noneAdded_acceptChanges _, Tracker.hasPending_acceptChanges _⟩

/-- How a save ends: the observer, saving since `s`, hears of the outcome `q` of the write with
notice `n`. -/
theorem Context.saveEnds_flags (n : Notice) (q : Except Fault Nat) {s₃ : Sys σ} {r : Except Fault Nat}
    (hw : Watched u c o s.world) (hf : Flags c o mode enabled g s.world)
    (hs₃ : Near u c (s.world.savingOn o) s₃.world)
    (hsaving : ∀ x : ObserverState, (x.noticed n).saving = false)
    (hexp : ∀ x : ObserverState, (x.noticed n).explicitChanges = (x.explicitChanges && !q.isOk))
    (hkept : q.isOk = false →
      (s₃.world.contexts[c]?.getD default).tracker = (s.world.contexts[c]?.getD default).tracker)
    (hset : q.isOk = true → (s₃.world.contexts[c]?.getD default).tracker.NoneAdded ∧
      (s₃.world.contexts[c]?.getD default).tracker.hasPending = false)
    (hx : exec (Context.notifyEach h c [n] >>= fun _ => Act.ofExcept q) s₃ = (r, s')) :
    Watched u c o s'.world ∧ Flags c o mode enabled (g && !r.isOk) s'.world ∧
      (r.isOk = true → (s'.world.contexts[c]?.getD default).tracker.hasPending = false) := by
  have hw₃ := hs₃.watched hw.savingOn
  rw [exec_bind, Context.notifyEach_of_interceptors h [n] hw₃.interceptors hw₃.observer_lt] at hx
  simp only [exec_ofExcept, Prod.mk.injEq] at hx
  obtain ⟨rfl, rfl⟩ := hx
  have hob : s₃.world.observers[o]?.getD default = { s.world.observers[o]?.getD default with saving := true } := by
    rw [hs₃.observers, World.savingOn, World.getD_modify_of_lt _ _ _ hw.observer_lt, if_pos rfl]
  refine ⟨hw₃.noticed [n], Flags.noticed hw₃ ?_ ?_ (hsaving _) ?_ ?_, fun hq => (hset hq).2⟩
  · rw [hob]
    exact hf.autoFlush
  · rw [hob]
    exact hf.flushEnabled
  · rw [List.foldl_cons, List.foldl_nil, hexp, hob]
    cases q.isOk <;> simp [hf.explicit]
  · intro hg
    cases hq : q.isOk with
    | false =>
      rw [hq, Bool.not_false, Bool.and_true] at hg
      exact (congrArg Tracker.NoneAdded (hkept hq)).mpr (hf.added hg)
    | true => exact (hset hq).1

/-- A save on the watched context ends with the observer not saving, its explicit changes cleared
exactly when the save succeeded, and then nothing pending. -/
theorem Context.save_flags {r : Except Fault Nat} (hw : Watched u c o s.world)
    (hf : Flags c o mode enabled g s.world) (hx : exec (Context.save h c wait) s = (r, s')) :
    Watched u c o s'.world ∧ Flags c o mode enabled (g && !r.isOk) s'.world ∧
      (r.isOk = true → (s'.world.contexts[c]?.getD default).tracker.hasPending = false) := by
  simp only [Context.save, Context.interceptorsNow, exec_bind, exec_world, World.context_eq,
    hw.interceptors, exec_pure, exec_outcome, List.forM] at hx
  rcases hbs : exec (Observer.beforeSave h o wait) s with ⟨p, s₁⟩
  have hs₁ := Observer.beforeSave_still hw hbs
  rw [hbs] at hx
  cases p with
  | error e =>
    simp only [exec_ofExcept] at hx
    exact Context.saveEnds_flags .saveFailed (.error e) hw hf hs₁.toNear (fun _ => rfl)
      (fun x => (Bool.and_true x.explicitChanges).symm) (fun _ => hs₁.tracker) (fun h => by cases h) hx
  | ok _ =>
    simp only [exec_ofExcept] at hx
    rcases hrt : exec wait.roundTrip s₁ with ⟨q, s₂⟩
    have hs₂ := Wait.roundTrip_still wait hs₁ hrt
    obtain ⟨hq, -⟩ := Wait.roundTrip_spec hrt
    simp only [hrt] at hx
    rcases hq with rfl | rfl
    · rcases hfl : exec (Context.flush c) s₂ with ⟨f, s₃⟩
      obtain ⟨hn₃, hkept, hset⟩ := Context.flush_near (hs₂.watched hw.savingOn) hfl
      simp only [hfl] at hx
      cases f with
      | ok n =>
        exact Context.saveEnds_flags (.savedChanges n) (.ok n) hw hf (hs₂.toNear.trans hn₃) (fun _ => rfl)
          (fun x => (Bool.and_false x.explicitChanges).symm) (fun h => by cases h) hset hx
      | error e =>
        exact Context.saveEnds_flags .saveFailed (.error e) hw hf (hs₂.toNear.trans hn₃) (fun _ => rfl)
          (fun x => (Bool.and_true x.explicitChanges).symm) (fun hq => (hkept hq).trans hs₂.tracker) (fun h => by cases h) hx
    · -- cancelled while waiting for the database
      simp only at hx
      exact Context.saveEnds_flags .saveFailed (.error .cancelled) hw hf hs₂.toNear (fun _ => rfl)
        (fun x => (Bool.and_true x.explicitChanges).symm) (fun _ => hs₂.tracker) (fun h => by cases h) hx

end Saving

/-! ### Tracking entities -/

section Tracked

variable {h : Hooks σ} {s s' : Sys σ}

/-- A tracking step that never tracks an entity as added where none was keeps the flags. -/
theorem Context.onTracker_observing {α : Type} {f : Tracker → Except Fault (Tracker × α)}
    (hf : ∀ t t' a, t.NoneAdded → f t = .ok (t', a) → t'.NoneAdded) :
    Keeps (σ := σ) (Observing u c o mode enabled g) (Context.onTracker c f) := by
  intro s s' r hb hx
  rw [Context.onTracker_exec_getD] at hx
  split at hx
  · next t a hfa =>
    obtain ⟨-, rfl⟩ := Prod.mk.inj hx
    exact ⟨((Still.refl s.world).toNear.setTracker c t).watched hb.toWatched, hb.autoFlush, hb.flushEnabled,
      hb.idle, hb.explicit, fun hg =>
        (congrArg Tracker.NoneAdded (hb.toWatched.tracker_setTracker t)).mpr (hf _ t a (hb.added hg) hfa)⟩
  · obtain ⟨-, rfl⟩ := Prod.mk.inj hx
    exact hb

/-- Changing a tracked entity without telling anyone keeps the flags. -/
theorem Context.modifyUntracked_observing (k : Key) (v : Value) :
    Keeps (σ := σ) (Observing u c o mode enabled g) (Context.modifyUntracked c k v) :=
  Context.onTracker_observing fun _ _ _ hn ht => hn.modifyUntracked (Context.map_pair_eq_ok ht)

/-- Notices that leave the observer's saving and explicit flags alone keep the flags. -/
theorem Context.notifyEach_observing (ns : List Notice)
    (hns : ∀ x : ObserverState, (ns.foldl ObserverState.noticed x).saving = x.saving ∧
      (ns.foldl ObserverState.noticed x).explicitChanges = x.explicitChanges) :
    Keeps (Observing u c o mode enabled g) (Context.notifyEach h c ns) := by
  intro s s' r hb hx
  rw [Context.notifyEach_of_interceptors h ns hb.interceptors hb.observer_lt] at hx
  obtain ⟨-, rfl⟩ := Prod.mk.inj hx
  exact ⟨hb.toWatched.noticed ns, Flags.noticed hb.toWatched hb.autoFlush hb.flushEnabled
    (by rw [(hns _).1]; exact hb.idle) (by rw [(hns _).2]; exact hb.explicit) hb.added⟩

/-- Reading an entity tracks it as loaded, which is no explicit change. -/
theorem Context.readEntity_observing (k : Key) :
    Keeps (Observing u c o mode enabled g) (Context.readEntity h c k) := by
  refine .bind (Observing.keeps fun _ _ => Context.view_still c) fun _ => .bind .world fun _ => ?_
  split
  · exact .pure _
  · split
    · exact .pure _
    · exact .bind (Context.onTracker_observing fun _ _ _ hn ht => hn.trackLoaded (Context.map_pair_eq_ok ht))
        fun _ => .bind (Context.notifyEach_observing _ fun _ => ⟨rfl, rfl⟩) fun _ => .pure _

/-- An explicit change: a tracking step with `f` that the observer hears of with `ns`, which
mark an explicit change when `f` succeeds. It makes `g` true when it succeeds. -/
theorem Context.explicit_flags {α : Type} (f : Tracker → Except Fault (Tracker × α)) (ns : α → List Notice)
    {r : Except Fault Unit} (hw : Watched u c o s.world) (hf : Flags c o mode enabled g s.world)
    (hns : ∀ a (x : ObserverState), ((ns a).foldl ObserverState.noticed x).saving = x.saving)
    (hexp : ∀ t a, f (s.world.contexts[c]?.getD default).tracker = .ok (t, a) →
      ((ns a).foldl ObserverState.noticed (s.world.observers[o]?.getD default)).explicitChanges = (mode != .off))
    (hx : exec (Context.onTracker c f >>= fun a => Context.notifyEach h c (ns a)) s = (r, s')) :
    Watched u c o s'.world ∧ Flags c o mode enabled (g || r.isOk) s'.world := by
  rw [Context.onTracker_notify f ns hw] at hx
  split at hx
  · next t a hfa =>
    obtain ⟨rfl, rfl⟩ := Prod.mk.inj hx
    refine ⟨hw.tracked t _, hf.tracked hw (hns a) ?_ fun hg => ?_⟩
    · rw [hexp t a hfa]
      cases g <;> rfl
    · cases g <;> cases hg
  · obtain ⟨rfl, rfl⟩ := Prod.mk.inj hx
    cases g <;> exact ⟨hw, hf⟩

theorem Context.add_flags (k : Key) (v : Value) {r : Except Fault Unit} (hw : Watched u c o s.world)
    (hf : Flags c o mode enabled g s.world) (hx : exec (Context.add h c k v) s = (r, s')) :
    Watched u c o s'.world ∧ Flags c o mode enabled (g || r.isOk) s'.world :=
  Context.explicit_flags _ (fun _ => [.entityTracked false, .stateChanged .added]) hw hf (fun _ _ => by simp)
    (fun _ _ _ => by
      simp only [List.foldl, ObserverState.explicitChanges_noticed_stateChanged,
        ObserverState.explicitChanges_noticed_entityTracked, ObserverState.autoFlush_noticed, hf.explicit,
        hf.autoFlush]
      cases mode <;> cases g <;> rfl) hx

theorem Context.update_flags (k : Key) (v : Value) {r : Except Fault Unit} (hw : Watched u c o s.world)
    (hf : Flags c o mode enabled g s.world) (hx : exec (Context.update h c k v) s = (r, s')) :
    Watched u c o s'.world ∧ Flags c o mode enabled (g || r.isOk) s'.world :=
  Context.explicit_flags _ (fun st => [.stateChanged st]) hw hf (fun _ _ => by simp)
    (fun _ _ ht => by
      simp only [List.foldl, ObserverState.explicitChanges_noticed_stateChanged, hf.explicit, hf.autoFlush,
        Tracker.modify_isPending ht]
      cases mode <;> cases g <;> rfl) hx

/-- A remove of an entity tracked as added only detaches it, which the observer does not hear
of as an explicit change; but such an entity is tracked only after an explicit change. -/
theorem Context.remove_flags (k : Key) {r : Except Fault Unit} (hw : Watched u c o s.world)
    (hf : Flags c o mode enabled g s.world) (hx : exec (Context.remove h c k) s = (r, s')) :
    Watched u c o s'.world ∧ Flags c o mode enabled (g || r.isOk) s'.world := by
  refine Context.explicit_flags _ (fun st => [.stateChanged st]) hw hf (fun _ _ => by simp) (fun _ st ht => ?_) hx
  simp only [List.foldl, ObserverState.explicitChanges_noticed_stateChanged, hf.explicit, hf.autoFlush]
  cases g with
  | false => rw [Tracker.remove_isPending (hf.added rfl) ht]; cases mode <;> rfl
  | true => cases st.isPending <;> cases mode <;> rfl

end Tracked

/-! ### Queries -/

/-- A query on a context: a find by key, or a count of a table's rows. -/
inductive Query where
  | find (k : Key)
  | count (table : String)

namespace Query

/-- The operation that runs the query. -/
def op : Query → Op
  | find k => .find k
  | count table => .count table

/-- The query once the interceptors were asked: a round trip to the database, and the read. -/
def read (h : Hooks σ) (c : Nat) (wait : Wait) : Query → Act σ Reply
  | find k => do wait.roundTrip; return .value (← Context.readEntity h c k)
  | count table => do wait.roundTrip; return .count ((← Context.view c).count table)

end Query

section Queries

variable {h : Hooks σ} {s s' : Sys σ} {wait : Wait}

/-- On the watched context the observer lets a command be created without asking anyone. -/
theorem Context.beforeCommand_watched (hw : Watched u c o s.world) : exec (Context.beforeCommand h c) s = (.ok (), s) := by
  rw [Context.beforeCommand, Context.guardEach_of_interceptors h _ _ hw.interceptors,
    Observer.guard_exec h _ hw.commandListeners, hw.live]
  rfl

/-- Before a reader the observer saves first exactly as `AutoFlush.flushes` says. -/
theorem Context.beforeReader_watched (wait : Wait) (hw : Watched u c o s.world) (hf : Flags c o mode enabled g s.world) :
    exec (Context.beforeReader h c wait) s =
      exec (if mode.flushes enabled g (s.world.contexts[c]?.getD default).tracker then
        (do let _ ← Context.save h c wait) else pure ()) s := by
  simp only [Context.beforeReader, Context.interceptorsNow, exec_bind, exec_world, World.context_eq,
    hw.interceptors, exec_pure, List.forM, Observer.beforeReader, World.observer_eq, Context.hasPending,
    hf.flushesBeforeReader]
  cases mode.flushes enabled g (s.world.contexts[c]?.getD default).tracker with
  | false => simp only [Bool.false_eq_true, if_false, exec_pure]
  | true =>
    simp only [if_true, hw.unit, exec_bind, UnitOfWork.context_exec hw.context, exec_pure]
    rcases exec (Context.save h c wait) s with ⟨_ | _, _⟩ <;> rfl

/-- A reader on the watched context: the observer is asked, then the reader runs. -/
theorem Context.reader_watched {β : Type} (k : Act σ β) (hw : Watched u c o s.world)
    (hf : Flags c o mode enabled g s.world) :
    exec (do Context.beforeCommand h c; Context.beforeReader h c wait; k) s =
      exec ((if mode.flushes enabled g (s.world.contexts[c]?.getD default).tracker then
        (do let _ ← Context.save h c wait) else pure ()) >>= fun _ => k) s := by
  simp only [exec_bind, Context.beforeCommand_watched hw, Context.beforeReader_watched wait hw hf]

/-- A query on the watched context is its read, after a save exactly as `AutoFlush.flushes` says. -/
theorem Query.runs_as_read (q : Query) (hw : Watched u c o s.world) (hf : Flags c o mode enabled g s.world) :
    exec (q.op.run h c wait) s =
      exec ((if mode.flushes enabled g (s.world.contexts[c]?.getD default).tracker then
        (do let _ ← Context.save h c wait) else pure ()) >>= fun _ => q.read h c wait) s := by
  cases q with
  | find k =>
    simp only [Query.op, Query.read, Op.run, Context.find, bind_assoc]
    exact Context.reader_watched _ hw hf
  | count table =>
    simp only [Query.op, Query.read, Op.run, Context.count, bind_assoc, pure_bind]
    exact Context.reader_watched _ hw hf

/-- Reading an entity on the watched context leaves the database alone. -/
theorem Context.readEntity_db (k : Key) {r : Except Fault (Option Value)} (hw : Watched u c o s.world)
    (hx : exec (Context.readEntity h c k) s = (r, s')) : s'.world.db = s.world.db := by
  rw [Context.readEntity, exec_bind] at hx
  rcases hv : exec (Context.view c) s with ⟨q, s₁⟩
  have hs₁ : s₁ = s := by rw [← Context.view_exec_state c s, hv]
  rw [hv, hs₁] at hx
  cases q with
  | error e =>
    obtain ⟨-, rfl⟩ := Prod.mk.inj hx
    rfl
  | ok tables =>
    simp only [exec_bind, exec_world] at hx
    split at hx
    · obtain ⟨-, rfl⟩ := Prod.mk.inj hx
      rfl
    · split at hx
      · obtain ⟨-, rfl⟩ := Prod.mk.inj hx
        rfl
      · -- a stored row: tracked as loaded, and the observer told
        next row _ =>
        rw [← bind_assoc, exec_bind, Context.onTracker_notify _ (fun _ => [.entityTracked true]) hw] at hx
        cases ht : ((s.world.contexts[c]?.getD default).tracker.trackLoaded k row.value row.version).map (·, ()) with
        | error e =>
          rw [ht] at hx
          obtain ⟨-, rfl⟩ := Prod.mk.inj hx
          rfl
        | ok p =>
          obtain ⟨t, a⟩ := p
          rw [ht] at hx
          obtain ⟨-, rfl⟩ := Prod.mk.inj hx
          rfl

/-- The read of a query leaves the database alone. -/
theorem Query.read_db (q : Query) (hw : Watched u c o s.world) : (exec (q.read h c wait) s).2.world.db = s.world.db := by
  rcases hrt : exec wait.roundTrip s with ⟨r₁, s₁⟩
  obtain ⟨-, hs₁⟩ := Wait.roundTrip_spec hrt
  have hdb₁ : s₁.world.db = s.world.db := by rw [hs₁]
  have hw₁ := (Wait.roundTrip_still wait (Still.refl _) hrt).watched hw
  cases q with
  | find k =>
    rw [Query.read, exec_bind, hrt]
    cases r₁ with
    | error e => exact hdb₁
    | ok _ =>
      dsimp only
      rw [exec_bind_pure]
      exact (Context.readEntity_db k hw₁ rfl).trans hdb₁
  | count table =>
    rw [Query.read, exec_bind, hrt]
    cases r₁ with
    | error e => exact hdb₁
    | ok _ =>
      dsimp only
      rw [exec_bind_pure, Context.view_exec_state]
      exact hdb₁

/-- The read of a query keeps the flags. -/
theorem Query.read_observing (q : Query) : Keeps (Observing u c o mode enabled g) (q.read h c wait) := by
  cases q with
  | find k =>
    exact .bind (Observing.keeps fun _ _ => Wait.roundTrip_still wait) fun _ =>
      .bind (Context.readEntity_observing k) fun _ => .pure _
  | count table =>
    exact .bind (Observing.keeps fun _ _ => Wait.roundTrip_still wait) fun _ =>
      .bind (Observing.keeps fun _ _ => Context.view_still c) fun _ => .pure _

end Queries

/-! ### Runs -/

/-- How query `q` runs from `s`, with `F` whether it saves first. It is its read, after a save
exactly when `F` holds, so that a failing save is its failure. When it saves, it answers as it
would after an explicit save just before it, and the save leaves nothing pending when it
succeeds; when it does not, it leaves the database alone and so begins no transaction. -/
structure QueryRuns (h : Hooks σ) (c : Nat) (wait : Wait) (q : Query) (F : Bool) (s : Sys σ) : Prop where
  reads : exec (q.op.run h c wait) s =
    exec ((if F then (do let _ ← Context.save h c wait) else pure ()) >>= fun _ => q.read h c wait) s
  saved : F = true →
    exec (q.op.run h c wait) s = exec (Context.save h c wait >>= fun _ => q.op.run h c wait) s
  settled : F = true → ∀ n s₁, exec (Context.save h c wait) s = (.ok n, s₁) →
    (s₁.world.contexts[c]?.getD default).tracker.hasPending = false
  untouched : F = false → (exec (q.op.run h c wait) s).2.world.db = s.world.db

/-- Whether an explicit change has succeeded since the last successful save once `op` has run
from `s`, with `g` whether one had before: an add, an update or a remove that succeeds makes it
so, and a save that succeeds, the one a query runs first included, makes it not so. -/
def explicitAfter (h : Hooks σ) (c : Nat) (mode : AutoFlush) (enabled g : Bool) (s : Sys σ) (op : Op)
    (wait : Wait) : Bool :=
  match op with
  | .add _ _ | .update _ _ | .remove _ => g || (exec (op.run h c wait) s).1.isOk
  | .save => g && !(exec (Context.save h c wait) s).1.isOk
  | .find _ | .count _ =>
    if mode.flushes enabled g (s.world.contexts[c]?.getD default).tracker then
      g && !(exec (Context.save h c wait) s).1.isOk
    else g
  | .modifyUntracked _ _ | .raw _ => g

/-- `R` holds of every operation of a run on context `c` from `s`, the operations running one
after another: of whether an explicit change has succeeded since the last successful save, of the
state the operation starts in, of the operation and of how it waits. -/
def Along (h : Hooks σ) (c : Nat) (mode : AutoFlush) (enabled : Bool) (R : Bool → Sys σ → Op → Wait → Prop) :
    Bool → List (Op × Wait) → Sys σ → Prop
  | _, [], _ => True
  | g, (op, wait) :: rest, s =>
    R g s op wait ∧
      Along h c mode enabled R (explicitAfter h c mode enabled g s op wait) rest (exec (op.run h c wait) s).2

section Runs

variable {h : Hooks σ} {s : Sys σ} {wait : Wait}

/-- Every query on the watched context runs as `QueryRuns` says, saving first exactly as
`AutoFlush.flushes` says. -/
theorem Query.runs (q : Query) (hw : Watched u c o s.world) (hf : Flags c o mode enabled g s.world) :
    QueryRuns h c wait q (mode.flushes enabled g (s.world.contexts[c]?.getD default).tracker) s where
  reads := Query.runs_as_read q hw hf
  saved hF := by
    rw [Query.runs_as_read q hw hf, hF, if_pos rfl, bind_assoc]
    refine exec_bind_congr rfl fun n s₁ h₁ => ?_
    -- after the save nothing is pending and no explicit change is left: the query saves no more
    obtain ⟨hw₁, hf₁, hset⟩ := Context.save_flags hw hf h₁
    have hf₁' : Flags c o mode enabled false s₁.world :=
      Bool.and_false g ▸ (hf₁ : Flags c o mode enabled (g && false) s₁.world)
    rw [Query.runs_as_read q hw₁ hf₁', AutoFlush.flushes_of_settled (hset rfl)]
    rfl
  settled _ _ _ h₁ := (Context.save_flags hw hf h₁).2.2 rfl
  untouched hF := by
    rw [Query.runs_as_read q hw hf, hF]
    exact Query.read_db q hw

theorem explicitAfter_query (q : Query) :
    explicitAfter h c mode enabled g s q.op wait =
      if mode.flushes enabled g (s.world.contexts[c]?.getD default).tracker then
        g && !(exec (Context.save h c wait) s).1.isOk
      else g := by
  cases q <;> rfl

/-- A query keeps the flags, with `g` cleared when the save it runs first succeeds. -/
theorem Query.flags_after (q : Query) (wait : Wait) (hw : Watched u c o s.world)
    (hf : Flags c o mode enabled g s.world) :
    Watched u c o (exec (q.op.run h c wait) s).2.world ∧
      Flags c o mode enabled (explicitAfter h c mode enabled g s q.op wait) (exec (q.op.run h c wait) s).2.world := by
  rw [explicitAfter_query, Query.runs_as_read q hw hf]
  cases mode.flushes enabled g (s.world.contexts[c]?.getD default).tracker with
  | false =>
    have hb := Query.read_observing q ⟨hw, hf⟩ (rfl : exec (q.read h c wait) s = _)
    exact ⟨hb.toWatched, hb.toFlags⟩
  | true =>
    simp only [if_true, bind_assoc, pure_bind]
    rcases h₁ : exec (Context.save h c wait) s with ⟨r₁, s₁⟩
    obtain ⟨hw₁, hf₁, -⟩ := Context.save_flags hw hf h₁
    rw [exec_bind, h₁]
    cases r₁ with
    | error e => exact ⟨hw₁, hf₁⟩
    | ok n =>
      have hb := Query.read_observing q ⟨hw₁, hf₁⟩ (rfl : exec (q.read h c wait) s₁ = _)
      exact ⟨hb.toWatched, hb.toFlags⟩

/-- Every operation keeps the flags, with `g` moved on by `explicitAfter`. -/
theorem Op.flags_after (op : Op) (wait : Wait) (hw : Watched u c o s.world)
    (hf : Flags c o mode enabled g s.world) :
    Watched u c o (exec (op.run h c wait) s).2.world ∧
      Flags c o mode enabled (explicitAfter h c mode enabled g s op wait) (exec (op.run h c wait) s).2.world := by
  cases op with
  | add k v =>
    simp only [explicitAfter, Op.run, exec_bind_pure, Act.isOk_map]
    exact Context.add_flags k v hw hf rfl
  | update k v =>
    simp only [explicitAfter, Op.run, exec_bind_pure, Act.isOk_map]
    exact Context.update_flags k v hw hf rfl
  | remove k =>
    simp only [explicitAfter, Op.run, exec_bind_pure, Act.isOk_map]
    exact Context.remove_flags k hw hf rfl
  | modifyUntracked k v =>
    have hb := Context.modifyUntracked_observing k v ⟨hw, hf⟩ (rfl : exec (Context.modifyUntracked c k v) s = _)
    simp only [explicitAfter, Op.run, exec_bind_pure]
    exact ⟨hb.toWatched, hb.toFlags⟩
  | find k => exact Query.flags_after (.find k) wait hw hf
  | count table => exact Query.flags_after (.count table) wait hw hf
  | raw change =>
    have hs := Context.executeRaw_still hw change wait (Still.refl s.world)
      (rfl : exec (Context.executeRaw h c change wait) s = _)
    simp only [explicitAfter, Op.run, exec_bind_pure]
    exact ⟨hs.watched hw, hs.flags hf⟩
  | save =>
    obtain ⟨hw', hf', -⟩ := Context.save_flags hw hf (rfl : exec (Context.save h c wait) s = _)
    simp only [explicitAfter, Op.run, exec_bind_pure]
    exact ⟨hw', hf'⟩

end Runs

/-- Auto-flush saves before a query exactly as configured. On a context watched by its unit's
observer alone, from a state whose flags agree with `g`, along any sequence of operations every
query runs as `QueryRuns` says: it saves first exactly when `AutoFlush.flushes` says so of the
mode, of whether flushing is enabled, of whether an explicit change has succeeded since the last
successful save and of the pending changes. -/
theorem queries_flush_as_configured {h : Hooks σ} {u c o : Nat} {mode : AutoFlush} {enabled g : Bool}
    {ops : List (Op × Wait)} {s : Sys σ} (hw : Watched u c o s.world) (hf : Flags c o mode enabled g s.world) :
    Along h c mode enabled (fun g s op wait => ∀ q : Query, q.op = op →
      QueryRuns h c wait q (mode.flushes enabled g (s.world.contexts[c]?.getD default).tracker) s) g ops s := by
  -- the flags hold before every operation, with `g` moved on by `explicitAfter`
  induction ops generalizing g s with
  | nil => trivial
  | cons step rest ih =>
    obtain ⟨op, wait⟩ := step
    obtain ⟨hw', hf'⟩ := Op.flags_after op wait hw hf
    exact ⟨fun q _ => Query.runs q hw hf, ih hw' hf'⟩


/-- A unit's context watched by its observer alone, which flushes as `mode` says, on an empty
database. -/
def watchedUnit (mode : AutoFlush) : Sys Unit :=
  { world :=
      { contexts := #[{ interceptors := [.observer 0] }]
        units := #[{ factory := 0, options := { autoFlush := mode }, context := some 0 }]
        observers := #[{ unit := 0, autoFlush := mode, avoidCommitRetries := true, flushEnabled := mode != .off }] }
    host := () }

/-- An add and then a find of what was added, on a unit that looks for explicit changes: the
find runs as `QueryRuns` says. -/
theorem add_then_find_flushes :
    Watched 0 0 0 (watchedUnit .explicit).world ∧ Flags 0 0 .explicit true false (watchedUnit .explicit).world ∧
      Along Hooks.quiet 0 .explicit true (fun g s op wait => ∀ q : Query, q.op = op →
        QueryRuns Hooks.quiet 0 wait q (AutoFlush.explicit.flushes true g (s.world.contexts[0]?.getD default).tracker) s)
        false [(.add ("items", 1) (.text "a"), .blocking), (.find ("items", 1), .blocking)] (watchedUnit .explicit) :=
  have hw : Watched 0 0 0 (watchedUnit .explicit).world := ⟨rfl, rfl, rfl, rfl, rfl, rfl, by decide⟩
  have hf : Flags 0 0 .explicit true false (watchedUnit .explicit).world := ⟨rfl, rfl, rfl, rfl, fun _ _ hp => nomatch hp⟩
  ⟨hw, hf, queries_flush_as_configured hw hf⟩

end ScopedWork

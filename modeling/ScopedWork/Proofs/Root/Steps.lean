import ScopedWork.Proofs.Root.Invariant

/-!
# Steps of a live unit of work

What each operation that a root execution's work can reach does to its unit of work, from a
state where the unit is `Live`: how it waits, what it reads, how it takes the lock, what
its observer hears and answers, and how it begins a transaction. Every operation here is a
`Moves` step: the unit stays live, the step keeps the frame and grows the history only as
`Grows` allows, and the host's state is left alone.

Specifications take the run as a hypothesis, `exec x s = (r, s')`, and say what holds of
`r` and `s'`; a proof about a larger operation names the state after each of its parts and
applies the part's specification to it.
-/

namespace ScopedWork

open Act

namespace Sys

variable {σ : Type} (s : Sys σ) (u : Nat) (l : LockState)

/-- The state with the lock of unit of work `u` set to `l`. -/
def withLock : Sys σ :=
  { s with world := { s.world with
    units := s.world.units.modify u fun _ => { s.world.units[u]?.getD default with lock := l } } }

@[simp] theorem withLock_host : (s.withLock u l).host = s.host := rfl
@[simp] theorem withLock_db : (s.withLock u l).world.db = s.world.db := rfl
@[simp] theorem withLock_contexts : (s.withLock u l).world.contexts = s.world.contexts := rfl
@[simp] theorem withLock_observers : (s.withLock u l).world.observers = s.world.observers := rfl
@[simp] theorem withLock_flow : (s.withLock u l).world.flow = s.world.flow := rfl
@[simp] theorem withLock_thread : (s.withLock u l).world.thread = s.world.thread := rfl

theorem withLock_lock (h : u < s.world.units.size) :
    ((s.withLock u l).world.units[u]?.getD default).lock = l := by
  simp [withLock, World.getD_modify_of_lt _ _ _ h]

end Sys

namespace Execution

variable {σ : Type} {u c o : Nat}

/-- A step from `s` to `s'` of the unit of work `u` that a root execution drives. -/
structure Moves (u c o : Nat) (s s' : Sys σ) : Prop where
  live : Live u c o s'.world
  advance : Advance u c o s.world s'.world
  host : s'.host = s.host
  execs : s'.world.execs = s.world.execs

namespace Moves

variable {s s₁ s₂ s' : Sys σ}

theorem refl (hl : Live u c o s.world) : Moves u c o s s :=
  ⟨hl, Advance.refl _, rfl, rfl⟩

theorem trans (h₁ : Moves u c o s s₁) (h₂ : Moves u c o s₁ s₂) : Moves u c o s s₂ :=
  ⟨h₂.live, h₁.advance.trans h₂.advance, h₂.host.trans h₁.host, h₂.execs.trans h₁.execs⟩

/-- A step that keeps the chain and changes neither the database nor the context's
transaction. -/
theorem of_frame (hl : Live u c o s.world) (hf : Frame u c o s.world s'.world)
    (hc : Stays s.world s'.world) (hdb : s'.world.db = s.world.db)
    (hslot : (s'.world.contexts[c]?.getD default).txn = (s.world.contexts[c]?.getD default).txn)
    (hab : (s'.world.observers[o]?.getD default).aborted =
      (s.world.observers[o]?.getD default).aborted)
    (hhost : s'.host = s.host) (hexecs : s'.world.execs = s.world.execs) : Moves u c o s s' where
  live := hl.of_frame hf hc (hdb ▸ hl.serial) (by rw [hslot, hdb]; exact hl.slot_live)
  advance := ⟨hf, hc, hab, by rw [hdb], [], by simp [hdb], by rw [hslot]; exact Grows.refl _ _ _⟩
  host := hhost
  execs := hexecs

end Moves

/-! ### What a step leaves alone -/

section Frames

variable (w : World)

theorem Frame.of_tokens (ts : Array Bool) (sp : List Nat) :
    Frame u c o w { w with tokens := ts, spawned := sp } :=
  ⟨rfl, rfl, rfl, rfl, rfl, rfl, rfl, Nat.le_refl _, fun _ _ => rfl⟩

theorem Frame.of_db (db : Database) : Frame u c o w { w with db } :=
  ⟨rfl, rfl, rfl, rfl, rfl, rfl, rfl, Nat.le_refl _, fun _ _ => rfl⟩

theorem Frame.of_unit (x : UnitState) (hx : x.shape = (w.units[u]?.getD default).shape) :
    Frame u c o w { w with units := w.units.modify u fun _ => x } :=
  ⟨World.getD_modify_view _ _ _ _ _ _ hx, rfl, rfl, Array.size_modify, rfl, rfl, rfl,
    Nat.le_refl _, fun _ _ => rfl⟩

theorem Frame.of_context (x : ContextState)
    (hx : x.interceptors = (w.contexts[c]?.getD default).interceptors) :
    Frame u c o w { w with contexts := w.contexts.modify c fun _ => x } :=
  ⟨rfl, rfl, World.getD_modify_view _ _ _ _ _ _ hx, rfl, Array.size_modify, rfl, rfl,
    Nat.le_refl _, fun _ _ => rfl⟩

theorem Frame.of_observer (x : ObserverState) (hx : x.shape = (w.observers[o]?.getD default).shape) :
    Frame u c o w { w with observers := w.observers.modify o fun _ => x } :=
  ⟨rfl, World.getD_modify_view _ _ _ _ _ _ hx, rfl, rfl, rfl, Array.size_modify, rfl,
    Nat.le_refl _, fun _ _ => rfl⟩

end Frames

namespace Moves

variable {s : Sys σ}

theorem of_tokens (hl : Live u c o s.world) (ts : Array Bool) (sp : List Nat) :
    Moves u c o s { s with world := { s.world with tokens := ts, spawned := sp } } :=
  of_frame hl (Frame.of_tokens _ _ _) (Stays.of_eq rfl rfl rfl) rfl rfl rfl rfl rfl

theorem of_lock (hl : Live u c o s.world) (l : LockState) : Moves u c o s (s.withLock u l) :=
  of_frame hl (Frame.of_unit _ _ rfl) (Stays.of_eq rfl rfl rfl) rfl rfl rfl rfl rfl

/-- A change to the database that keeps its invariant and neither begins, ends nor writes. -/
theorem of_db (hl : Live u c o s.world) (db : Database) (hs : Database.Serial db)
    (htxns : db.txns = s.world.db.txns) (htables : db.tables = s.world.db.tables)
    (hhistory : db.history = s.world.db.history) : Moves u c o s { s with world := { s.world with db } } :=
  ⟨hl.of_frame (Frame.of_db _ _) (Stays.of_eq rfl rfl rfl) hs (by rw [htxns]; exact hl.slot_live),
    ⟨Frame.of_db _ _, Stays.of_eq rfl rfl rfl, rfl, htables, [], by simpa using hhistory,
      Grows.refl _ _ _⟩, rfl, rfl⟩

/-- Beginning a transaction in the context's empty slot, with the unit not invalidated. -/
theorem of_begin (hl : Live u c o s.world)
    (hab : (s.world.observers[o]?.getD default).aborted = false)
    (hslot : (s.world.contexts[c]?.getD default).txn = none) (iso : Option Isolation) :
    Moves u c o s { s with world := { s.world with
      db := { s.world.db with txns := (s.world.db.txns.begin iso).1, started := s.world.db.started + 1,
                              history := s.world.db.history ++ [.began s.world.db.txns.next] }
      contexts := s.world.contexts.modify c fun _ =>
        { s.world.contexts[c]?.getD default with txn := some s.world.db.txns.next } } } := by
  have hf := (Frame.of_db (u := u) (c := c) (o := o) s.world { s.world.db with
      txns := (s.world.db.txns.begin iso).1, started := s.world.db.started + 1,
      history := s.world.db.history ++ [.began s.world.db.txns.next] }).trans
    (Frame.of_context _ { s.world.contexts[c]?.getD default with txn := some s.world.db.txns.next } rfl)
  have hnew : ((s.world.contexts.modify c fun _ => { s.world.contexts[c]?.getD default with
      txn := some s.world.db.txns.next })[c]?.getD default).txn = some s.world.db.txns.next := by
    simp [World.getD_modify_of_lt _ _ _ hl.context_lt]
  refine ⟨hl.of_frame hf (Stays.of_eq rfl rfl rfl) (hl.serial.begin iso) ?_,
    ⟨hf, Stays.of_eq rfl rfl rfl, rfl, rfl, _, rfl, ?_⟩, rfl, rfl⟩
  · intro t ht
    rw [hnew] at ht
    cases ht
    simp [TxnManager.find?_begin hl.serial.wf]
  · rw [hnew, hslot, hab]
    exact .inr ⟨rfl, rfl, _, [], rfl, rfl, Writes.nil _, hl.serial.fresh⟩

end Moves

end Execution

open Execution

variable {σ : Type} {u c o : Nat}

/-! ### Waiting -/

theorem Cancellation.suspend_exec (s : Sys σ) :
    exec Cancellation.suspend s =
      (.ok (), { s with world := { s.world with
        tokens := s.world.spawned.foldl (fun ts t => ts.modify t fun _ => true) s.world.tokens
        spawned := [] } }) := by
  simp [Cancellation.suspend, World.foldl_cancel]

/-- A round trip to the database changes the tokens and the spawned tasks only, and fails
only as cancelled. -/
theorem Wait.roundTrip_spec {wait : Wait} {s s' : Sys σ} {r : Except Fault Unit}
    (hx : exec wait.roundTrip s = (r, s')) :
    (r = .ok () ∨ r = .error .cancelled) ∧
      s' = { s with world := { s.world with tokens := s'.world.tokens, spawned := s'.world.spawned } } := by
  cases wait with
  | blocking =>
    obtain ⟨rfl, rfl⟩ := Prod.mk.inj hx
    exact ⟨.inl rfl, rfl⟩
  | async token =>
    simp only [Wait.roundTrip, Cancellation.roundTrip, Cancellation.check, Cancellation.isCancelled,
      exec_bind, exec_world, World.cancelled_eq, Cancellation.suspend_exec] at hx
    by_cases h₁ : s.world.tokens[token]?.getD false = true
    · simp only [h₁] at hx
      obtain ⟨rfl, rfl⟩ := Prod.mk.inj hx
      exact ⟨.inr rfl, rfl⟩
    · simp only [h₁, Bool.false_eq_true, if_false, exec_pure] at hx
      split at hx
      · obtain ⟨rfl, rfl⟩ := Prod.mk.inj hx
        exact ⟨.inr rfl, rfl⟩
      · obtain ⟨rfl, rfl⟩ := Prod.mk.inj hx
        exact ⟨.inl rfl, rfl⟩

/-- Letting other tasks run changes the tokens and the spawned tasks only, and never fails. -/
theorem Wait.pause_spec {wait : Wait} {s s' : Sys σ} {r : Except Fault Unit}
    (hx : exec wait.pause s = (r, s')) :
    r = .ok () ∧
      s' = { s with world := { s.world with tokens := s'.world.tokens, spawned := s'.world.spawned } } := by
  cases wait with
  | blocking =>
    obtain ⟨rfl, rfl⟩ := Prod.mk.inj hx
    exact ⟨rfl, rfl⟩
  | async token =>
    rw [Wait.pause, Cancellation.suspend_exec] at hx
    obtain ⟨rfl, rfl⟩ := Prod.mk.inj hx
    exact ⟨rfl, rfl⟩

/-! ### Reading the unit and its context -/

theorem UnitOfWork.context_exec {s : Sys σ} (h : (s.world.units[u]?.getD default).context = some c) :
    exec (UnitOfWork.context u) s = (.ok c, s) := by
  simp [UnitOfWork.context, UnitOfWork.get, h]

theorem UnitOfWork.observer_exec {s : Sys σ} (h : (s.world.units[u]?.getD default).observer = some o) :
    exec (UnitOfWork.observer u) s = (.ok o, s) := by
  simp [UnitOfWork.observer, UnitOfWork.get, h]

theorem UnitOfWork.ensureNoExternal_exec {s : Sys σ}
    (h : (s.world.flow.getD s.world.thread).external = 0) :
    exec UnitOfWork.ensureNoExternal s = (.ok (), s) := by
  simp [UnitOfWork.ensureNoExternal, h]

/-! ### The lock -/

theorem UnitOfWork.acquire_exec_free {s : Sys σ}
    (hfree : (s.world.units[u]?.getD default).lock = .free) :
    exec (UnitOfWork.acquire u) s = (.ok (), s.withLock u .held) := by
  simp [UnitOfWork.acquire, UnitOfWork.get, UnitOfWork.modify, hfree, Sys.withLock]

theorem UnitOfWork.release_exec (s : Sys σ) :
    exec (UnitOfWork.release u) s = (.ok (), s.withLock u .free) := by
  simp [UnitOfWork.release, UnitOfWork.modify, Sys.withLock]

/-- With the lock free, an operation under the lock runs with it held and frees it after,
whatever the operation did. -/
theorem UnitOfWork.locked_exec_free {α : Type} (body : Act σ α) {s : Sys σ}
    (hfree : (s.world.units[u]?.getD default).lock = .free) :
    exec (UnitOfWork.locked u body) s =
      ((exec body (s.withLock u .held)).1, (exec body (s.withLock u .held)).2.withLock u .free) := by
  simp [UnitOfWork.locked, UnitOfWork.acquire_exec_free hfree, UnitOfWork.release_exec]

/-! ### The observer -/

theorem Context.notifyOne_run (h : Hooks σ) (n : Notice) (s : Sys σ) :
    (Context.notifyOne h n (.observer o)).run s =
      ((), { s with world := { s.world with
        observers := s.world.observers.modify o fun _ => (s.world.observers[o]?.getD default).noticed n } }) := by
  simp only [Context.notifyOne, Run.modifyWorld, StateT.run, World.setObserver, World.observer,
    Array.getD_eq_getD_getElem?]

theorem Context.forM_notifyOne_run (h : Hooks σ) (ns : List Notice) (s : Sys σ)
    (ho : o < s.world.observers.size) :
    (ns.forM fun n => Context.notifyOne h n (.observer o)).run s =
      ((), { s with world := { s.world with
        observers := s.world.observers.modify o fun _ =>
          ns.foldl ObserverState.noticed (s.world.observers[o]?.getD default) } }) := by
  induction ns generalizing s with
  | nil =>
    simp only [List.forM, StateT.run_pure, List.foldl, World.modify_getD_self _ _ _ ho]
    rfl
  | cons n ns ih =>
    simp only [List.forM, StateT.run_bind, Context.notifyOne_run]
    refine (ih _ (by simpa using ho)).trans ?_
    simp only [World.getD_modify_of_lt _ _ _ ho, if_true, World.modify_modify_const, List.foldl]

/-- A context whose only interceptor is observer `o`: the observer takes note of every
notification in turn. -/
theorem Context.notifyEach_of_interceptors (h : Hooks σ) (ns : List Notice) {s : Sys σ}
    (hi : (s.world.contexts[c]?.getD default).interceptors = [.observer o]) (ho : o < s.world.observers.size) :
    exec (Context.notifyEach h c ns) s =
      (.ok (), { s with world := { s.world with
        observers := s.world.observers.modify o fun _ =>
          ns.foldl ObserverState.noticed (s.world.observers[o]?.getD default) } }) := by
  simp only [Context.notifyEach, Context.interceptorsNow, exec_bind, exec_world, World.context_eq,
    hi, exec_pure, exec_ofRun, List.forM, StateT.run_bind, Context.forM_notifyOne_run _ _ _ ho]
  rfl

/-- The only interceptor of a live unit's context is its observer, which takes note of
every notification in turn. -/
theorem Context.notifyEach_exec (h : Hooks σ) (ns : List Notice) {s : Sys σ}
    (hl : Live u c o s.world) :
    exec (Context.notifyEach h c ns) s =
      (.ok (), { s with world := { s.world with
        observers := s.world.observers.modify o fun _ =>
          ns.foldl ObserverState.noticed (s.world.observers[o]?.getD default) } }) :=
  Context.notifyEach_of_interceptors h ns hl.interceptors hl.observer_lt

theorem Observer.guard_exec (h : Hooks σ) (sel : ObserverState → List Nat) {s : Sys σ}
    (hsel : sel (s.world.observers[o]?.getD default) = []) :
    exec (Observer.guard h o sel) s =
      (if (s.world.observers[o]?.getD default).aborted then .error .aborted else .ok (), s) := by
  by_cases hab : (s.world.observers[o]?.getD default).aborted = true
  · simp [Observer.guard, hab]
  · simp [Observer.guard, hab, hsel]

/-- A context whose only interceptor is observer `o`: a round of questions asks the observer
alone. -/
theorem Context.guardEach_of_interceptors (h : Hooks σ) (g : Guard) (onObserver : Nat → Act σ Unit)
    {s : Sys σ} (hi : (s.world.contexts[c]?.getD default).interceptors = [.observer o]) :
    exec (Context.guardEach h c g onObserver) s = exec (onObserver o) s := by
  simp only [Context.guardEach, Context.interceptorsNow, exec_bind, exec_world, World.context_eq,
    hi, exec_pure, List.forM]
  cases exec (onObserver o) s with
  | mk r s' => cases r <;> rfl

theorem Context.guardEach_exec (h : Hooks σ) (g : Guard) (onObserver : Nat → Act σ Unit)
    {s : Sys σ} (hl : Live u c o s.world) :
    exec (Context.guardEach h c g onObserver) s = exec (onObserver o) s :=
  Context.guardEach_of_interceptors h g onObserver hl.interceptors

/-- A context whose only interceptor is observer `o`: the fault of a failed transaction
operation is the observer's report of it. -/
theorem Context.failedThrough_of_interceptors (h : Hooks σ) (a : TxnAction) (e : Fault) {s : Sys σ}
    (hi : (s.world.contexts[c]?.getD default).interceptors = [.observer o]) :
    exec (Context.failedThrough h c a e) s =
      (.ok ((s.world.observers[o]?.getD default).failed a e), s) := by
  simp [Context.failedThrough, Context.interceptorsNow, hi]
  exact ⟨rfl, rfl⟩

theorem Context.failedThrough_exec (h : Hooks σ) (a : TxnAction) (e : Fault) {s : Sys σ}
    (hl : Live u c o s.world) :
    exec (Context.failedThrough h c a e) s =
      (.ok ((s.world.observers[o]?.getD default).failed a e), s) :=
  Context.failedThrough_of_interceptors h a e hl.interceptors

/-! ### Beginning a transaction -/

/-- Beginning: the round trip may be cancelled, an invalidated unit's observer refuses, an
open transaction or an injected fault refuses, and none of these begins anything;
otherwise a fresh transaction is begun in the context's slot. -/
theorem Context.begin_spec {h : Hooks σ} {iso : Option Isolation} {wait : Wait} {s s' : Sys σ}
    {r : Except Fault Nat} (hl : Live u c o s.world) (hx : exec (Context.begin h c iso wait) s = (r, s')) :
    Moves u c o s s' ∧ s'.world.observers = s.world.observers ∧
      ∀ t, r = .ok t → (s'.world.contexts[c]?.getD default).txn = some t := by
  simp only [Context.begin, exec_bind] at hx
  rcases hrt : exec wait.roundTrip s with ⟨r₁, s₁⟩
  obtain ⟨hr₁, hs₁⟩ := Wait.roundTrip_spec hrt
  have hm₁ : Moves u c o s s₁ := hs₁ ▸ Moves.of_tokens hl _ _
  have ho₁ : s₁.world.observers = s.world.observers := by rw [hs₁]
  rw [hrt] at hx
  rcases hr₁ with rfl | rfl
  · simp only [Context.guardEach_exec h _ _ hm₁.live,
      Observer.guard_exec h _ hm₁.live.start_listeners] at hx
    by_cases hab : (s₁.world.observers[o]?.getD default).aborted = true
    · simp only [hab, if_true] at hx
      obtain ⟨rfl, rfl⟩ := Prod.mk.inj hx
      exact ⟨hm₁, ho₁, fun _ h => nomatch h⟩
    simp only [hab, Bool.false_eq_true, if_false, Context.hasTxn, exec_bind, exec_world, exec_pure,
      World.context_eq] at hx
    cases hslot : (s₁.world.contexts[c]?.getD default).txn with
    | some t =>
      simp only [hslot, Option.isSome_some, if_true, exec_bind, exec_throw] at hx
      obtain ⟨rfl, rfl⟩ := Prod.mk.inj hx
      exact ⟨hm₁, ho₁, fun _ h => nomatch h⟩
    | none =>
      simp only [hslot, Option.isSome_none, Bool.false_eq_true, if_false, exec_bind, exec_outcome,
        exec_database] at hx
      by_cases hf : 0 < s₁.world.db.transientFaults
      · rw [Database.begin_run_fault iso _ hf] at hx
        have hm₂ := hm₁.trans (Moves.of_db hm₁.live
          { s₁.world.db with transientFaults := s₁.world.db.transientFaults - 1 }
          (hm₁.live.serial.faults _ _) rfl rfl rfl)
        simp only [exec_bind, Context.failedThrough_exec h _ _ hm₂.live, exec_throw] at hx
        obtain ⟨rfl, rfl⟩ := Prod.mk.inj hx
        exact ⟨hm₂, ho₁, fun _ h => nomatch h⟩
      · rw [Database.begin_run iso _ (by omega)] at hx
        have hm₂ := hm₁.trans (Moves.of_begin hm₁.live (by simpa using hab) hslot iso)
        simp only [Context.modify, exec_bind, exec_modifyWorld, exec_pure, World.setContext_eq,
          World.context_eq] at hx
        obtain ⟨rfl, rfl⟩ := Prod.mk.inj hx
        refine ⟨hm₂, ho₁, fun t ht => ?_⟩
        cases ht
        simp [World.getD_modify_of_lt _ _ _ hm₁.live.context_lt]
  · obtain ⟨rfl, rfl⟩ := Prod.mk.inj hx
    exact ⟨hm₁, ho₁, fun _ h => nomatch h⟩

/-- Starting the unit's transaction: nothing happens with one open; otherwise the start runs
under the lock. If it succeeds, a transaction is open after it, and the lock is free again
either way. -/
theorem UnitOfWork.tryStart_spec {h : Hooks σ} {wait : Wait} {s s' : Sys σ} {r : Except Fault Bool}
    (hl : Live u c o s.world) (hfree : (s.world.units[u]?.getD default).lock = .free)
    (hx : exec (UnitOfWork.tryStart h u wait) s = (r, s')) :
    Moves u c o s s' ∧ (s'.world.units[u]?.getD default).lock = .free ∧
      s'.world.observers = s.world.observers ∧
      ∀ b, r = .ok b → (s'.world.contexts[c]?.getD default).txn.isSome := by
  simp only [UnitOfWork.tryStart, exec_bind, UnitOfWork.context_exec hl.unit_context, Context.hasTxn,
    exec_world, exec_pure, World.context_eq] at hx
  cases hslot : (s.world.contexts[c]?.getD default).txn with
  | some t =>
    simp only [hslot, Option.isSome_some, if_true, exec_pure] at hx
    obtain ⟨rfl, rfl⟩ := Prod.mk.inj hx
    exact ⟨Moves.refl hl, hfree, rfl, fun _ _ => by simp [hslot]⟩
  | none =>
    simp only [hslot, Option.isSome_none, Bool.false_eq_true, if_false,
      UnitOfWork.locked_exec_free _ hfree] at hx
    have hm₁ := Moves.of_lock hl .held
    simp only [exec_bind, exec_world, exec_pure, Sys.withLock_contexts, hslot,
      Option.isSome_none, Bool.false_eq_true, if_false,
      UnitOfWork.ensureNoExternal_exec (s := s.withLock u .held) hm₁.live.no_external,
      UnitOfWork.isolation, UnitOfWork.get, World.unit_eq] at hx
    obtain ⟨rfl, rfl⟩ := Prod.mk.inj hx
    -- the lock is released whether or not the transaction began
    split
    · next t s₂ hb =>
      obtain ⟨hm₂, ho₂, hslot₂⟩ := Context.begin_spec hm₁.live hb
      refine ⟨(hm₁.trans hm₂).trans (Moves.of_lock hm₂.live .free),
        Sys.withLock_lock _ _ _ hm₂.live.unit_lt, ho₂, fun _ _ => ?_⟩
      simp [hslot₂ t rfl]
    · next e s₂ hb =>
      obtain ⟨hm₂, ho₂, -⟩ := Context.begin_spec hm₁.live hb
      exact ⟨(hm₁.trans hm₂).trans (Moves.of_lock hm₂.live .free),
        Sys.withLock_lock _ _ _ hm₂.live.unit_lt, ho₂, fun _ h => nomatch h⟩

end ScopedWork

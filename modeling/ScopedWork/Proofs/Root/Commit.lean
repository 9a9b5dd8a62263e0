import ScopedWork.Proofs.Root.Nesting
import ScopedWork.Proofs.Attempt.Commit

/-!
# Ending the transaction of an attempt

An attempt of a root execution ends its transaction in one of two ways. When its scope
completed, the unit commits: the round trip before the commit may be cancelled, which leaves
the transaction open; otherwise the transaction leaves the context's slot and the database
either commits it or rolls it back, keeping the committed tables. A commit whose
acknowledgement was lost is reported by the observer as a commit failure. When the attempt
failed, the reset closes the connection, which rolls back whatever is still open, and lifts
the unit's invalidation.

Neither touches what a root execution keeps (`Kept`).
-/

namespace ScopedWork

open Act Execution

variable {σ : Type} {u c o : Nat}

namespace Execution

/-- How committing the open transaction `t` ends, from database `db` to `db'`, leaving the
context's slot at `slot`, with outcome `r`. -/
inductive CommitEnds {α : Type} (t : Nat) (db db' : Database) (slot : Option Nat) (r : Except Fault α) :
    Prop where
  /-- The round trip before the commit was cancelled, and nothing else happened. -/
  | cancelled : r = .error .cancelled → db' = db → slot = some t → CommitEnds t db db' slot r
  /-- Committed; a failure is a lost acknowledgement, reported as a commit failure. -/
  | committed : slot = none → db'.history = db.history ++ [.committed t] →
      (∀ e, r = .error e → e.isCommitFailure) → CommitEnds t db db' slot r
  /-- Rolled back by the database, which keeps the committed tables, and failed. -/
  | rolledBack : slot = none → db'.history = db.history ++ [.rolledBack t] →
      db'.tables = db.tables → (∃ e, r = .error e) → CommitEnds t db db' slot r

/-- A change to the context that keeps its interceptors and leaves no transaction open. -/
theorem Kept.of_context {s : Sys σ} (hl : Live u c o s.world) (x : ContextState)
    (hint : x.interceptors = (s.world.contexts[c]?.getD default).interceptors) (hidle : x.txn = none) :
    Kept u c o s { s with world := { s.world with contexts := s.world.contexts.modify c fun _ => x } } := by
  have hf := Frame.of_context (u := u) (o := o) s.world x hint
  refine ⟨hl.of_frame hf (Stays.of_eq rfl rfl rfl) hl.serial fun t ht => ?_, hf,
    Stays.of_eq rfl rfl rfl, rfl, rfl⟩
  simp [World.getD_modify_of_lt _ _ _ hl.context_lt, hidle] at ht

/-- A change to the database, while the context holds no transaction. -/
theorem Kept.of_db {s : Sys σ} (hl : Live u c o s.world)
    (hidle : (s.world.contexts[c]?.getD default).txn = none) (db : Database) (hs : Database.Serial db) :
    Kept u c o s { s with world := { s.world with db } } :=
  ⟨hl.of_frame (Frame.of_db _ _) (Stays.of_eq rfl rfl rfl) hs fun t ht => by simp [hidle] at ht,
    Frame.of_db _ _, Stays.of_eq rfl rfl rfl, rfl, rfl⟩

/-- A change to the observer that keeps its shape. -/
theorem Kept.of_observer {s : Sys σ} (hl : Live u c o s.world) (x : ObserverState)
    (hshape : x.shape = (s.world.observers[o]?.getD default).shape) :
    Kept u c o s { s with world := { s.world with observers := s.world.observers.modify o fun _ => x } } := by
  have hf := Frame.of_observer (u := u) (c := c) s.world x hshape
  exact ⟨hl.of_frame hf (Stays.of_eq rfl rfl rfl) hl.serial hl.slot_live, hf, Stays.of_eq rfl rfl rfl, rfl, rfl⟩

end Execution

/-- An observer that avoids commit retries reports every failed commit as a commit failure. -/
theorem commitReport_isCommitFailure (e : Fault) : (commitReport true e).isCommitFailure := by
  unfold commitReport
  cases h : e.isCommitFailure with
  | false => rfl
  | true => exact h

/-! ### Committing -/

/-- Committing the context's open transaction `t`: cancelled at the round trip, or ended by
the database as `CommitEnds` says. -/
theorem Context.commit_spec {h : Hooks σ} {wait : Wait} {t : Nat} {s s' : Sys σ} {r : Except Fault Unit}
    (hl : Live u c o s.world) (hslot : (s.world.contexts[c]?.getD default).txn = some t)
    (hx : exec (Context.commit h c wait) s = (r, s')) :
    Kept u c o s s' ∧ s'.world.units = s.world.units ∧ s'.world.observers = s.world.observers ∧
      CommitEnds t s.world.db s'.world.db (s'.world.contexts[c]?.getD default).txn r := by
  unfold Context.commit at hx
  rw [exec_bind] at hx
  rcases hrt : exec wait.roundTrip s with ⟨q, s₁⟩
  obtain ⟨hq, hs₁⟩ := Wait.roundTrip_spec hrt
  have hk₁ : Kept u c o s s₁ := hs₁ ▸ (Moves.of_tokens hl _ _).kept
  rw [hrt] at hx
  rcases hq with rfl | rfl
  case inr =>
    obtain ⟨rfl, rfl⟩ := Prod.mk.inj hx
    exact ⟨hk₁, by rw [hs₁], by rw [hs₁], .cancelled rfl (by rw [hs₁]) (by rw [hs₁]; exact hslot)⟩
  -- the transaction leaves the slot before the database ends it
  have hslot₁ : (s₁.world.contexts[c]?.getD default).txn = some t := by rw [hs₁]; exact hslot
  obtain ⟨tx, htx⟩ := Option.isSome_iff_exists.mp (hk₁.live.slot_live t hslot₁)
  have hk₂ := hk₁.trans (Kept.of_takeTxn hk₁.live)
  have hidle₂ : ((s₁.world.contexts.modify c fun _ =>
      { s₁.world.contexts[c]?.getD default with txn := none })[c]?.getD default).txn = none := by
    simp [World.getD_modify_of_lt _ _ _ hk₁.live.context_lt]
  obtain ⟨-, hends⟩ := Database.commit_atomic hk₁.live.serial.wf htx
  have hserial := (Database.Action.commit_serial hk₁.live.serial t).1
  simp only [Database.Action.run] at hserial
  simp only [exec_bind, Context.takeTxn_exec hslot₁, exec_outcome, exec_database] at hx
  rcases hdb : ((Database.commit t).run).run s₁.world.db with ⟨q, db⟩
  rw [hdb] at hends hserial hx
  have hk₃ := hk₂.trans (Kept.of_db hk₂.live hidle₂ db hserial)
  have hobs : s'.world.observers = s.world.observers ∧ s'.world.units = s.world.units ∧
      s'.world.db = db ∧ (s'.world.contexts[c]?.getD default).txn = none ∧ Kept u c o s s' := by
    cases q with
    | ok _ =>
      obtain ⟨-, rfl⟩ := Prod.mk.inj hx
      exact ⟨by rw [hs₁], by rw [hs₁], rfl, hidle₂, hk₃⟩
    | error e =>
      simp only [exec_bind, Context.failedThrough_exec h _ _ hk₃.live, exec_throw] at hx
      obtain ⟨-, rfl⟩ := Prod.mk.inj hx
      exact ⟨by rw [hs₁], by rw [hs₁], rfl, hidle₂, hk₃⟩
  obtain ⟨ho', hu', hdb', hidle', hk'⟩ := hobs
  refine ⟨hk', hu', ho', ?_⟩
  have hdb₁ : s₁.world.db = s.world.db := by rw [hs₁]
  rw [hdb', ← hdb₁]
  rcases hends with ⟨-, -, hhist, -⟩ | ⟨-, ⟨e₀, rfl⟩, htables, hhist⟩
  · -- committed: the observer of a live unit wraps a lost acknowledgement
    refine .committed hidle' hhist fun e he => ?_
    cases q with
    | ok _ =>
      obtain ⟨rfl, -⟩ := Prod.mk.inj hx
      cases he
    | error e₀ =>
      simp only [exec_bind, Context.failedThrough_exec h _ _ hk₃.live, exec_throw] at hx
      obtain ⟨rfl, -⟩ := Prod.mk.inj hx
      cases he
      rw [ObserverState.failed_commit, hk₃.live.avoids]
      exact commitReport_isCommitFailure e₀
  · simp only [exec_bind, Context.failedThrough_exec h _ _ hk₃.live, exec_throw] at hx
    obtain ⟨rfl, -⟩ := Prod.mk.inj hx
    exact .rolledBack hidle' hhist htables ⟨_, rfl⟩


/-! ### The unit's commit -/

namespace Execution.CommitEnds

variable {α β : Type} {t : Nat} {db db' : Database} {slot : Option Nat}

/-- The ending depends on the outcome only through the fault it fails with, if any. -/
theorem of_errors {q : Except Fault α} {r : Except Fault β} (h : CommitEnds t db db' slot q)
    (hr : ∀ e, r = .error e ↔ q = .error e) : CommitEnds t db db' slot r := by
  cases h with
  | cancelled hq hdb hslot => exact .cancelled ((hr _).2 hq) hdb hslot
  | committed hslot hhist hq => exact .committed hslot hhist fun e he => hq e ((hr e).1 he)
  | rolledBack hslot hhist htables hq =>
    obtain ⟨e, he⟩ := hq
    exact .rolledBack hslot hhist htables ⟨e, (hr e).2 he⟩

end Execution.CommitEnds

/-- Committing the unit's transaction under its lock: with none open nothing happens;
otherwise the commit ends as `CommitEnds` says, and the lock is free again. -/
theorem UnitOfWork.tryCommit_spec {h : Hooks σ} {wait : Wait} {s s' : Sys σ} {r : Except Fault Bool}
    (hl : Live u c o s.world) (hfree : (s.world.units[u]?.getD default).lock = .free)
    (hx : exec (UnitOfWork.tryCommit h u wait) s = (r, s')) :
    Kept u c o s s' ∧ (s'.world.units[u]?.getD default).lock = .free ∧
      s'.world.observers = s.world.observers ∧
      ((s.world.contexts[c]?.getD default).txn = none → r = .ok false ∧ s' = s) ∧
      ∀ t, (s.world.contexts[c]?.getD default).txn = some t →
        CommitEnds t s.world.db s'.world.db (s'.world.contexts[c]?.getD default).txn r := by
  simp only [UnitOfWork.tryCommit, UnitOfWork.tryFinish, exec_bind,
    UnitOfWork.context_exec hl.unit_context, Context.hasTxn, exec_world, exec_pure,
    World.context_eq] at hx
  cases hslot : (s.world.contexts[c]?.getD default).txn with
  | none =>
    simp only [hslot, Option.isSome_none, Bool.not_false, if_true, exec_pure] at hx
    obtain ⟨rfl, rfl⟩ := Prod.mk.inj hx
    exact ⟨Kept.refl hl, hfree, rfl, fun _ => ⟨rfl, rfl⟩, fun _ h => by cases h⟩
  | some t =>
    simp only [hslot, Option.isSome_some, Bool.not_true, Bool.false_eq_true, if_false,
      UnitOfWork.locked_exec_free _ hfree] at hx
    have hk₁ := (Moves.of_lock hl .held).kept
    simp only [exec_bind, exec_world, exec_pure, Sys.withLock_contexts, hslot, Option.isSome_some,
      Bool.not_true, Bool.false_eq_true, if_false] at hx
    obtain ⟨rfl, rfl⟩ := Prod.mk.inj hx
    rcases hc : exec (Context.commit h c wait) (s.withLock u .held) with ⟨q, s₂⟩
    obtain ⟨hk₂, -, ho₂, hends⟩ := Context.commit_spec hk₁.live (by simpa using hslot) hc
    refine ⟨(hk₁.trans hk₂).trans ?_, ?_, ?_, (fun h => by cases h), fun t' ht' => ?_⟩
    · cases q <;> exact (Moves.of_lock hk₂.live .free).kept
    · cases q <;> exact Sys.withLock_lock _ _ _ hk₂.live.unit_lt
    · cases q <;> simpa using ho₂
    · cases ht'
      have hends' : CommitEnds t s.world.db s₂.world.db (s₂.world.contexts[c]?.getD default).txn q := by
        simpa using hends
      cases q with
      | ok _ => exact hends'.of_errors fun e => by simp
      | error e => exact hends'.of_errors fun _ => by simp

/-! ### The reset after a failed attempt -/

/-- Closing the connection: the slot is emptied and the transaction still open, if any, is
rolled back; nothing fails. -/
theorem Context.close_of_live {s s' : Sys σ} {r : Except Fault Unit} (hl : Live u c o s.world)
    (hx : exec (Context.close c) s = (r, s')) :
    r = .ok () ∧ Kept u c o s s' ∧ s'.world.units = s.world.units ∧
      s'.world.observers = s.world.observers ∧ s'.world.db.tables = s.world.db.tables ∧
      (s'.world.contexts[c]?.getD default).txn = none ∧
      s'.world.db.history =
        s.world.db.history ++ (s.world.contexts[c]?.getD default).txn.toList.map .rolledBack := by
  simp only [Context.close, Context.modify, exec_bind, exec_world, exec_modifyWorld, World.context_eq,
    World.setContext_eq] at hx
  have hk₁ := Kept.of_context hl { s.world.contexts[c]?.getD default with
    closes := (s.world.contexts[c]?.getD default).closes + 1, txn := none } rfl rfl
  have hidle₁ : ((s.world.contexts.modify c fun _ => { s.world.contexts[c]?.getD default with
      closes := (s.world.contexts[c]?.getD default).closes + 1, txn := none })[c]?.getD default).txn =
        none := by
    simp [World.getD_modify_of_lt _ _ _ hl.context_lt]
  cases hslot : (s.world.contexts[c]?.getD default).txn with
  | none =>
    simp only [hslot, exec_pure] at hx
    obtain ⟨rfl, rfl⟩ := Prod.mk.inj hx
    exact ⟨rfl, hk₁, rfl, rfl, rfl, hidle₁, by simp⟩
  | some t =>
    obtain ⟨tx, htx⟩ := Option.isSome_iff_exists.mp (hl.slot_live t hslot)
    simp only [hslot, exec_database, Database.rollback_run hl.serial.wf htx] at hx
    obtain ⟨rfl, rfl⟩ := Prod.mk.inj hx
    exact ⟨rfl, hk₁.trans (Kept.of_rollback hk₁.live hidle₁ htx), rfl, rfl, rfl, hidle₁, rfl⟩

/-- The reset after a failed attempt never fails. It keeps what a root execution keeps and
the committed tables, rolls back the transaction still open, if any, and leaves the unit
with no transaction open, not invalidated and not saving. -/
theorem UnitOfWork.resetAfterFailure_spec {s s' : Sys σ} {r : Except Fault Unit}
    (hl : Live u c o s.world) (hx : exec (UnitOfWork.resetAfterFailure u c) s = (r, s')) :
    r = .ok () ∧ Kept u c o s s' ∧ s'.world.units = s.world.units ∧
      (s'.world.observers[o]?.getD default).aborted = false ∧
      (s'.world.observers[o]?.getD default).saving = false ∧
      (s'.world.contexts[c]?.getD default).txn = none ∧ s'.world.db.tables = s.world.db.tables ∧
      s'.world.db.history =
        s.world.db.history ++ (s.world.contexts[c]?.getD default).txn.toList.map .rolledBack := by
  unfold UnitOfWork.resetAfterFailure at hx
  rw [exec_bind, Context.clearTracked_exec] at hx
  simp only [World.setContext_eq, World.context_eq] at hx
  have hk₁ := (Moves.of_context hl { s.world.contexts[c]?.getD default with tracker := {} } rfl rfl).kept
  have hk₂ := hk₁.trans (Kept.of_observer hk₁.live
    { s.world.observers[o]?.getD default with explicitChanges := false, saving := false } rfl)
  simp only [exec_bind, exec_outcome, UnitOfWork.observer_exec hk₁.live.unit_observer,
    UnitOfWork.modifyObserver, exec_modifyWorld, World.setObserver_eq, World.observer_eq] at hx
  rcases hc : exec (Context.close c) { s with world := { s.world with
      contexts := s.world.contexts.modify c fun _ => { s.world.contexts[c]?.getD default with tracker := {} },
      observers := s.world.observers.modify o fun _ =>
        { s.world.observers[o]?.getD default with explicitChanges := false, saving := false } } }
    with ⟨q, s₃⟩
  obtain ⟨-, hk₃, hu₃, ho₃, ht₃, hslot₃, hh₃⟩ := Context.close_of_live hk₂.live hc
  rw [hc, UnitOfWork.undoInvalidation_exec hk₃.live.unit_observer] at hx
  obtain ⟨rfl, rfl⟩ := Prod.mk.inj hx
  have hk₄ := Kept.of_observer hk₃.live { s₃.world.observers[o]?.getD default with aborted := false } rfl
  refine ⟨rfl, hk₂.trans (hk₃.trans (by simpa using hk₄)), by simpa using hu₃, ?_, ?_, by simpa using hslot₃,
    by simpa using ht₃, ?_⟩
  · simp [World.getD_modify_of_lt _ _ _ hk₃.live.observer_lt]
  · simp [ho₃, World.getD_modify_of_lt _ _ _ hl.observer_lt]
  · simp only [World.setObserver_eq, hh₃]
    simp [World.getD_modify_of_lt _ _ _ hl.context_lt]

end ScopedWork

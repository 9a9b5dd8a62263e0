import ScopedWork.Proofs.Root.Operations

/-!
# Execution scopes inside an attempt

An attempt of a root execution runs its work in an execution scope, and work may run
executions nested in it, each in a scope of its own. From the start of an attempt until its
commit, the unit stays live and steady and the history since the start stays in the
attempt's `Phase`: `InAttempt`. A stretch of the attempt that keeps this, the frame and the
chain, and commits nothing, is `Within`.

Disposing a scope that did not complete invalidates the unit and rolls back its
transaction: the attempt moves to its invalidated phase, where nothing can begin again.
-/

namespace ScopedWork

open Act Execution

variable {σ : Type} {u c o : Nat}

namespace Execution

/-! ### Steps that may end the transaction -/

/-- A step that keeps the unit live, the frame, the chain, the host's state and the
execution scopes; unlike `Moves`, it may end the context's transaction. -/
structure Kept (u c o : Nat) (s s' : Sys σ) : Prop where
  live : Live u c o s'.world
  frame : Frame u c o s.world s'.world
  stays : Stays s.world s'.world
  host : s'.host = s.host
  execs : s'.world.execs = s.world.execs

namespace Kept

variable {s s₁ s₂ s' : Sys σ}

theorem refl (hl : Live u c o s.world) : Kept u c o s s :=
  ⟨hl, Frame.refl _, Stays.refl _, rfl, rfl⟩

theorem trans (h₁ : Kept u c o s s₁) (h₂ : Kept u c o s₁ s₂) : Kept u c o s s₂ :=
  ⟨h₂.live, h₁.frame.trans h₂.frame, h₁.stays.trans h₂.stays, h₂.host.trans h₁.host,
    h₂.execs.trans h₁.execs⟩

end Kept

theorem Moves.kept {s s' : Sys σ} (hm : Moves u c o s s') : Kept u c o s s' :=
  ⟨hm.live, hm.advance.frame, hm.advance.stays, hm.host, hm.execs⟩

/-! ### Where an attempt stands -/

/-- The attempt that started at history `A` stands in its phase: the events since its start
are those `Phase` allows for the unit's invalidation and its context's transaction. -/
def InAttempt (c o : Nat) (A : List TxnEvent) (w : World) : Prop :=
  ∃ d, w.db.history = A ++ d ∧
    Phase A (w.observers[o]?.getD default).aborted (w.contexts[c]?.getD default).txn d

/-- A step of work keeps the attempt in its phase. -/
theorem InAttempt.advance {A : List TxnEvent} {w w' : World} (h : InAttempt c o A w)
    (ha : Advance u c o w w') : InAttempt c o A w' := by
  obtain ⟨d, hd, hp⟩ := h
  obtain ⟨δ, hδ, hg⟩ := ha.grows
  refine ⟨d ++ δ, by rw [hδ, hd, List.append_assoc], ?_⟩
  rw [ha.aborted]
  rw [hd] at hg
  exact hp.grow hg

/-- Invalidating the unit and rolling back its transaction, if one is open, moves the
attempt to its invalidated phase. -/
theorem Phase.invalidate {A d : List TxnEvent} {aborted : Bool} {slot : Option Nat}
    (hp : Phase A aborted slot d) : Phase A true none (d ++ slot.toList.map .rolledBack) := by
  cases aborted with
  | false =>
    cases slot with
    | none =>
      simp only [Phase] at hp
      simp [Phase, hp]
    | some t =>
      obtain ⟨-, ws, rfl, hws⟩ := hp
      exact .inr ⟨t, ws, by simp, hws⟩
  | true =>
    cases slot with
    | none => simpa using hp
    | some _ => exact absurd hp id

/-- A stretch of the attempt that started at history `A`: the unit stays live and steady,
the frame and the chain are kept, nothing is committed, and the attempt stays in its
phase. -/
structure Within (u c o : Nat) (A : List TxnEvent) (s s' : Sys σ) : Prop where
  live : Live u c o s'.world
  steady : Steady u o s'.world
  frame : Frame u c o s.world s'.world
  stays : Stays s.world s'.world
  tables : s'.world.db.tables = s.world.db.tables
  attempt : InAttempt c o A s'.world

namespace Within

variable {A : List TxnEvent} {s s₁ s₂ s' : Sys σ}

theorem refl (hl : Live u c o s.world) (hst : Steady u o s.world) (hin : InAttempt c o A s.world) :
    Within u c o A s s :=
  ⟨hl, hst, Frame.refl _, Stays.refl _, rfl, hin⟩

theorem trans (h₁ : Within u c o A s s₁) (h₂ : Within u c o A s₁ s₂) : Within u c o A s s₂ :=
  ⟨h₂.live, h₂.steady, h₁.frame.trans h₂.frame, h₁.stays.trans h₂.stays,
    h₂.tables.trans h₁.tables, h₂.attempt⟩

theorem of_moves (hm : Moves u c o s s') (hst : Steady u o s'.world) (hin : InAttempt c o A s.world) :
    Within u c o A s s' :=
  ⟨hm.live, hst, hm.advance.frame, hm.advance.stays, hm.advance.tables, hin.advance hm.advance⟩

end Within

end Execution

/-! ### Ending the transaction -/

/-- Taking the transaction out of the context's slot. -/
theorem Context.takeTxn_exec {t : Nat} {s : Sys σ} (hslot : (s.world.contexts[c]?.getD default).txn = some t) :
    exec (Context.takeTxn c) s =
      (.ok t, { s with world := { s.world with contexts := s.world.contexts.modify c fun _ =>
        { s.world.contexts[c]?.getD default with txn := none } } }) := by
  simp [Context.takeTxn, Context.currentTxn, Context.modify, hslot]

theorem Execution.Kept.of_takeTxn {s : Sys σ} (hl : Live u c o s.world) :
    Kept u c o s { s with world := { s.world with contexts := s.world.contexts.modify c fun _ =>
      { s.world.contexts[c]?.getD default with txn := none } } } := by
  have hf := Frame.of_context (u := u) (o := o) s.world { s.world.contexts[c]?.getD default with txn := none } rfl
  refine ⟨hl.of_frame hf (Stays.of_eq rfl rfl rfl) hl.serial fun t ht => ?_, hf,
    Stays.of_eq rfl rfl rfl, rfl, rfl⟩
  simp [World.getD_modify_of_lt _ _ _ hl.context_lt] at ht

/-- Rolling back transaction `t` in the database, once it left the context's slot. -/
theorem Execution.Kept.of_rollback {s : Sys σ} {t : Nat} {tx : Transaction} (hl : Live u c o s.world)
    (hslot : (s.world.contexts[c]?.getD default).txn = none) (htx : s.world.db.txns.find? t = some tx) :
    Kept u c o s { s with world := { s.world with db := { s.world.db with
      txns := s.world.db.txns.drop t, history := s.world.db.history ++ [.rolledBack t] } } } :=
  ⟨hl.of_frame (Frame.of_db _ _) (Stays.of_eq rfl rfl rfl)
    (hl.serial.ended htx s.world.db.commitFault) (fun t' ht' => by simp [hslot] at ht'),
    Frame.of_db _ _, Stays.of_eq rfl rfl rfl, rfl, rfl⟩

/-- Rolling back the context's open transaction `t` succeeds: the slot is emptied, and the
history records the rollback and nothing else. -/
theorem Context.rollback_spec {h : Hooks σ} {wait : Wait} {t : Nat} {s s' : Sys σ}
    {r : Except Fault Unit} (hl : Live u c o s.world)
    (hslot : (s.world.contexts[c]?.getD default).txn = some t)
    (hx : exec (Context.rollback h c wait) s = (r, s')) :
    r = .ok () ∧ Kept u c o s s' ∧ s'.world.units = s.world.units ∧
      s'.world.observers = s.world.observers ∧ s'.world.db.tables = s.world.db.tables ∧
      (s'.world.contexts[c]?.getD default).txn = none ∧
      s'.world.db.history = s.world.db.history ++ [.rolledBack t] := by
  simp only [Context.rollback, exec_bind] at hx
  rcases hp : exec wait.pause s with ⟨q, s₁⟩
  obtain ⟨rfl, hs₁⟩ := Wait.pause_spec hp
  have hk₁ : Kept u c o s s₁ := hs₁ ▸ (Moves.of_tokens hl _ _).kept
  have hslot₁ : (s₁.world.contexts[c]?.getD default).txn = some t := by rw [hs₁]; exact hslot
  obtain ⟨tx, htx⟩ := Option.isSome_iff_exists.mp (hk₁.live.slot_live t hslot₁)
  have hk₂ := hk₁.trans (Kept.of_takeTxn hk₁.live)
  have hk₃ := hk₂.trans (Kept.of_rollback hk₂.live
    (by simp [World.getD_modify_of_lt _ _ _ hk₁.live.context_lt]) htx)
  simp only [hp, Context.takeTxn_exec hslot₁, exec_outcome, exec_database,
    Database.rollback_run hk₁.live.serial.wf htx, exec_pure] at hx
  obtain ⟨rfl, rfl⟩ := Prod.mk.inj hx
  refine ⟨rfl, hk₃, by rw [hs₁], by rw [hs₁], by rw [hs₁], ?_, by rw [hs₁]⟩
  simp [World.getD_modify_of_lt _ _ _ hk₁.live.context_lt]

/-- Rolling back the unit's transaction, if one is open, under the lock. -/
theorem UnitOfWork.tryRollback_spec {h : Hooks σ} {wait : Wait} {s s' : Sys σ} {r : Except Fault Bool}
    (hl : Live u c o s.world) (hfree : (s.world.units[u]?.getD default).lock = .free)
    (hx : exec (UnitOfWork.tryRollback h u wait) s = (r, s')) :
    (∃ b, r = .ok b) ∧ Kept u c o s s' ∧ (s'.world.units[u]?.getD default).lock = .free ∧
      s'.world.observers = s.world.observers ∧ s'.world.db.tables = s.world.db.tables ∧
      (s'.world.contexts[c]?.getD default).txn = none ∧
      s'.world.db.history =
        s.world.db.history ++ (s.world.contexts[c]?.getD default).txn.toList.map .rolledBack := by
  simp only [UnitOfWork.tryRollback, UnitOfWork.tryFinish, exec_bind,
    UnitOfWork.context_exec hl.unit_context, Context.hasTxn, exec_world, exec_pure,
    World.context_eq] at hx
  cases hslot : (s.world.contexts[c]?.getD default).txn with
  | none =>
    simp only [hslot, Option.isSome_none, Bool.not_false, if_true, exec_pure] at hx
    obtain ⟨rfl, rfl⟩ := Prod.mk.inj hx
    exact ⟨⟨false, rfl⟩, Kept.refl hl, hfree, rfl, rfl, hslot, by simp⟩
  | some t =>
    simp only [hslot, Option.isSome_some, Bool.not_true, Bool.false_eq_true, if_false,
      UnitOfWork.locked_exec_free _ hfree] at hx
    have hk₁ := (Moves.of_lock hl .held).kept
    simp only [exec_bind, exec_world, exec_pure, Sys.withLock_contexts, hslot, Option.isSome_some,
      Bool.not_true, Bool.false_eq_true, if_false] at hx
    obtain ⟨rfl, rfl⟩ := Prod.mk.inj hx
    rcases hrb : exec (Context.rollback h c wait) (s.withLock u .held) with ⟨q, s₂⟩
    obtain ⟨rfl, hk₂, -, ho₂, ht₂, hslot₂, hh₂⟩ :=
      Context.rollback_spec hk₁.live (by simpa using hslot) hrb
    refine ⟨⟨true, rfl⟩, (hk₁.trans hk₂).trans (Moves.of_lock hk₂.live .free).kept,
      Sys.withLock_lock _ _ _ hk₂.live.unit_lt, ho₂, ht₂, hslot₂, ?_⟩
    simp [hh₂]

/-- Marking the unit as invalidated changes its observer's invalidation and nothing else. -/
theorem UnitOfWork.invalidate_exec {s : Sys σ} (hl : Live u c o s.world) :
    exec (UnitOfWork.invalidate u) s =
      (.ok (), { s with world := { s.world with observers := s.world.observers.modify o fun _ =>
        { s.world.observers[o]?.getD default with aborted := true } } }) := by
  simp [UnitOfWork.invalidate, UnitOfWork.observer_exec hl.unit_observer, UnitOfWork.modifyObserver]

/-- Invalidating the unit and rolling back its transaction moves the attempt to its
invalidated phase, with no transaction open. -/
theorem UnitOfWork.tryRollbackInvalidate_spec {h : Hooks σ} {wait : Wait} {A : List TxnEvent}
    {s s' : Sys σ} {r : Except Fault Bool} (hl : Live u c o s.world) (hst : Steady u o s.world)
    (hin : InAttempt c o A s.world) (hx : exec (UnitOfWork.tryRollbackInvalidate h u wait) s = (r, s')) :
    (∃ b, r = .ok b) ∧ Within u c o A s s' ∧ s'.host = s.host ∧ s'.world.execs = s.world.execs ∧
      (s'.world.observers[o]?.getD default).aborted = true ∧
      (s'.world.contexts[c]?.getD default).txn = none := by
  simp only [UnitOfWork.tryRollbackInvalidate, exec_bind, UnitOfWork.invalidate_exec hl] at hx
  have hf₁ := Frame.of_observer (u := u) (c := c) s.world
    { s.world.observers[o]?.getD default with aborted := true } rfl
  have hk₁ : Kept u c o s { s with world := { s.world with observers := (s.world.observers.modify o
      fun _ => { s.world.observers[o]?.getD default with aborted := true }) } } :=
    ⟨hl.of_frame hf₁ (Stays.of_eq rfl rfl rfl) hl.serial hl.slot_live, hf₁, Stays.of_eq rfl rfl rfl,
      rfl, rfl⟩
  obtain ⟨hb, hk₂, hfree₂, ho₂, ht₂, hslot₂, hh₂⟩ := UnitOfWork.tryRollback_spec hk₁.live hst.lock_free hx
  have hobs : (s'.world.observers[o]?.getD default) =
      { s.world.observers[o]?.getD default with aborted := true } := by
    rw [ho₂]
    simp [World.getD_modify_of_lt _ _ _ hl.observer_lt]
  have hk := hk₁.trans hk₂
  refine ⟨hb, ⟨hk.live, ⟨hfree₂, by rw [hobs]; exact hst.not_saving⟩, hk.frame, hk.stays, ht₂, ?_⟩,
    hk.host, hk.execs, by rw [hobs], hslot₂⟩
  obtain ⟨d, hd, hp⟩ := hin
  refine ⟨d ++ (s.world.contexts[c]?.getD default).txn.toList.map .rolledBack, ?_, ?_⟩
  · rw [hh₂]
    simp [hd]
  · rw [hobs, hslot₂]
    exact hp.invalidate

/-! ### Work in a scope -/

namespace Mark

/-- The history a mark records as the start of an attempt, if it is such a mark. -/
def snapshot : Mark → Option (List TxnEvent)
  | entered history => some history
  | touched .. => none

end Mark

namespace Execution

/-- What work adds to the journal: marks of operations, each run inside its context's
transaction. -/
def Sound (J : Journal) : Prop := ∀ m ∈ J, m.InTxn ∧ m.snapshot = none

theorem Sound.nil : Sound [] := fun _ h => nomatch h

theorem Sound.append {J₁ J₂ : Journal} (h₁ : Sound J₁) (h₂ : Sound J₂) : Sound (J₁ ++ J₂) := by
  intro m hm
  rcases List.mem_append.mp hm with hm | hm
  · exact h₁ m hm
  · exact h₂ m hm

/-- A stretch of an attempt run by work: `Within`, recording sound marks only and disposing
none of the execution scopes that existed before. -/
structure Runs (u c o : Nat) (A : List TxnEvent) (s s' : Sys Journal) : Prop
    extends Within u c o A s s' where
  journal : ∃ J, s'.host = s.host ++ J ∧ Sound J
  disposed : ∀ i < s.world.execs.size,
    (s'.world.execs[i]?.getD default).disposed = (s.world.execs[i]?.getD default).disposed

namespace Runs

variable {A : List TxnEvent} {s s₁ s₂ s' : Sys Journal}

theorem of_within (hw : Within u c o A s s') (hh : s'.host = s.host)
    (hd : ∀ i < s.world.execs.size,
      (s'.world.execs[i]?.getD default).disposed = (s.world.execs[i]?.getD default).disposed) :
    Runs u c o A s s' :=
  ⟨hw, ⟨[], by rw [hh, List.append_nil], Sound.nil⟩, hd⟩

theorem refl (hl : Live u c o s.world) (hst : Steady u o s.world) (hin : InAttempt c o A s.world) :
    Runs u c o A s s :=
  of_within (Within.refl hl hst hin) rfl fun _ _ => rfl

theorem trans (h₁ : Runs u c o A s s₁) (h₂ : Runs u c o A s₁ s₂) : Runs u c o A s s₂ := by
  obtain ⟨J₁, hJ₁, hs₁⟩ := h₁.journal
  obtain ⟨J₂, hJ₂, hs₂⟩ := h₂.journal
  refine ⟨h₁.toWithin.trans h₂.toWithin, ⟨J₁ ++ J₂, by rw [hJ₂, hJ₁, List.append_assoc], hs₁.append hs₂⟩,
    fun i hi => ?_⟩
  rw [h₂.disposed i (Nat.lt_of_lt_of_le hi h₁.frame.execs_size), h₁.disposed i hi]

theorem of_moves (hm : Moves u c o s s') (hst : Steady u o s'.world) (hin : InAttempt c o A s.world) :
    Runs u c o A s s' :=
  of_within (.of_moves hm hst hin) hm.host fun i _ => by rw [hm.execs]

end Runs

theorem Frame.of_execs (w : World) (xs : Array ExecState) (hsize : w.execs.size ≤ xs.size)
    (hshape : ∀ i < w.execs.size, (xs[i]?.getD default).shape = (w.execs[i]?.getD default).shape) :
    Frame u c o w { w with execs := xs } :=
  ⟨rfl, rfl, rfl, rfl, rfl, rfl, rfl, hsize, hshape⟩

/-- A change to the execution scopes that keeps the unit and context of those there were. -/
theorem Within.of_execs {A : List TxnEvent} {s : Sys σ} (hl : Live u c o s.world)
    (hst : Steady u o s.world) (hin : InAttempt c o A s.world) (xs : Array ExecState)
    (hsize : s.world.execs.size ≤ xs.size)
    (hshape : ∀ i < s.world.execs.size, (xs[i]?.getD default).shape = (s.world.execs[i]?.getD default).shape) :
    Within u c o A s { s with world := { s.world with execs := xs } } :=
  ⟨hl.of_frame (Frame.of_execs _ _ hsize hshape) (Stays.of_eq rfl rfl rfl) hl.serial hl.slot_live,
    ⟨hst.lock_free, hst.not_saving⟩, Frame.of_execs _ _ hsize hshape, Stays.of_eq rfl rfl rfl, rfl, hin⟩

end Execution

theorem Exec.create_exec (u' c' : Nat) (nested : Bool) (token : Nat) (s : Sys σ) :
    exec (Exec.create u' c' nested token) s =
      (.ok s.world.execs.size, { s with world := { s.world with
        execs := s.world.execs.push { unit := u', context := c', nested, token } } }) := by
  simp [Exec.create]

theorem Exec.abort_exec (e : Nat) (s : Sys σ) :
    exec (Exec.abort e) s =
      (.ok (), { s with world := { s.world with execs := s.world.execs.modify e fun _ =>
        { s.world.execs[e]?.getD default with completed := false } } }) := by
  simp [Exec.abort, Exec.modify]

/-- A new scope's token changes the tokens only. -/
theorem Wait.scopeToken_spec {wait : Wait} {s s' : Sys σ} {r : Except Fault Nat}
    (hx : exec wait.scopeToken s = (r, s')) :
    (∃ t, r = .ok t) ∧ s' = { s with world := { s.world with tokens := s'.world.tokens } } := by
  cases wait with
  | blocking =>
    simp only [Wait.scopeToken, Cancellation.freshToken, exec_bind, exec_world, exec_modifyWorld,
      exec_pure] at hx
    obtain ⟨rfl, rfl⟩ := Prod.mk.inj hx
    exact ⟨⟨_, rfl⟩, rfl⟩
  | async token =>
    obtain ⟨rfl, rfl⟩ := Prod.mk.inj hx
    exact ⟨⟨_, rfl⟩, rfl⟩

/-- Disposing a scope marks it disposed, the first time; a scope that did not complete
invalidates the unit and rolls back its transaction. -/
theorem Exec.dispose_spec {h : Hooks σ} {e : Nat} {wait : Wait} {A : List TxnEvent} {s s' : Sys σ}
    {r : Except Fault Unit} (hl : Live u c o s.world) (hst : Steady u o s.world)
    (hin : InAttempt c o A s.world) (hshape : (s.world.execs[e]?.getD default).shape = (u, c))
    (hx : exec (Exec.dispose h e wait) s = (r, s')) :
    r = .ok () ∧ Within u c o A s s' ∧ s'.host = s.host ∧
      (∀ i, i ≠ e → s'.world.execs[i]?.getD default = s.world.execs[i]?.getD default) ∧
      ((s.world.execs[e]?.getD default).disposed = false →
        (s.world.execs[e]?.getD default).completed = false →
        (s'.world.observers[o]?.getD default).aborted = true ∧
          (s'.world.contexts[c]?.getD default).txn = none) := by
  simp only [Exec.dispose, Exec.get, Exec.modify, exec_bind, exec_world, exec_pure, World.exec_eq,
    World.setExec_eq] at hx
  by_cases hd : (s.world.execs[e]?.getD default).disposed = true
  · simp only [hd, if_true, exec_pure] at hx
    obtain ⟨rfl, rfl⟩ := Prod.mk.inj hx
    exact ⟨rfl, Within.refl hl hst hin, rfl, fun _ _ => rfl, fun h => absurd h (by simp [hd])⟩
  simp only [hd, Bool.false_eq_true, if_false, exec_bind, exec_modifyWorld] at hx
  -- name the scope's fields, so that the steps below rewrite none of them
  generalize hx₀ : s.world.execs[e]?.getD default = x at hx hshape ⊢
  obtain ⟨xu, xc, xn, xt, completed, disposed⟩ := x
  obtain ⟨rfl, rfl⟩ := Prod.mk.inj hshape
  have hother : ∀ i, i ≠ e → ((s.world.execs.modify e fun _ =>
      { unit := xu, context := xc, nested := xn, token := xt, completed, disposed := true })[i]?.getD
        default) = s.world.execs[i]?.getD default := by
    intro i hi
    simp [Array.getElem?_modify, Ne.symm hi]
  have hw₁ := Within.of_execs (A := A) hl hst hin (s.world.execs.modify e fun _ =>
      { unit := xu, context := xc, nested := xn, token := xt, completed, disposed := true }) (by simp)
    (fun i _ => World.getD_modify_view _ _ _ _ _ _ (by rw [hx₀]; rfl))
  cases completed with
  | true =>
    obtain ⟨rfl, rfl⟩ := Prod.mk.inj hx
    exact ⟨rfl, hw₁, rfl, hother, fun _ h => nomatch h⟩
  | false =>
  simp only [Bool.not_false, if_true, exec_bind] at hx
  split at hx
  · next b s₂ hr =>
    obtain ⟨-, hw₂, hh₂, he₂, hab₂, hslot₂⟩ :=
      UnitOfWork.tryRollbackInvalidate_spec hw₁.live hw₁.steady hw₁.attempt hr
    obtain ⟨rfl, rfl⟩ := Prod.mk.inj hx
    exact ⟨rfl, hw₁.trans hw₂, hh₂, fun i hi => by rw [he₂]; exact hother i hi,
      fun _ _ => ⟨hab₂, hslot₂⟩⟩
  · next err s₂ hr =>
    obtain ⟨⟨_, hb⟩, -⟩ := UnitOfWork.tryRollbackInvalidate_spec hw₁.live hw₁.steady hw₁.attempt hr
    cases hb

namespace Exec

/-- How the work of a scope ends: its outcome, or a cancellation seen before or after it. -/
def outcomeOf {α : Type} (body : Act σ α) (token : Nat) : Wait → Act σ (Except Fault α)
  | .blocking => Act.outcome body
  | .async _ => do
    if (← Cancellation.isCancelled token) then pure (.error .cancelled)
    else
      match ← Act.outcome body with
      | .ok a => if (← Cancellation.isCancelled token) then pure (.error .cancelled) else pure (.ok a)
      | .error err => pure (.error err)

/-- What a scope does once its work ended: it aborts on a failure, is disposed, and reports
the outcome with its completion. -/
def finish {α : Type} (h : Hooks σ) (e : Nat) (result : Except Fault α) (wait : Wait) :
    Act σ (α × Bool) := do
  if let .error _ := result then abort e
  let completed ← isCompleted e
  let disposed ← Act.outcome (dispose h e wait)
  Act.ofExcept ((settle result disposed).map (·, completed))

/-- Running work in a scope is computing its outcome and then finishing the scope: the
scope's ending is pushed into every branch of the outcome. -/
theorem runWork_eq {α : Type} (h : Hooks σ) (e : Nat) (body : Act σ α) (wait : Wait) :
    runWork h e body wait = (do
      let result ← outcomeOf body (← get e).token wait
      finish h e result wait) := by
  cases wait with
  | blocking => rfl
  | async t =>
    simp only [runWork, outcomeOf, bind_assoc]
    congr 1
    funext x
    congr 1
    funext b
    split
    · simp [finish]
    · simp only [bind_assoc]
      congr 1
      funext r
      cases r with
      | ok a =>
        simp only [bind_assoc]
        congr 1
        funext b'
        split <;> simp [finish]
      | error err => simp [finish]

end Exec

theorem Exec.isCompleted_exec (e : Nat) (s : Sys σ) :
    exec (Exec.isCompleted e) s = (.ok (s.world.execs[e]?.getD default).completed, s) := by
  simp [Exec.isCompleted, Exec.get]

/-- However the work of a scope ends, its outcome is returned, not thrown. -/
theorem Exec.outcomeOf_spec {α : Type} {body : Act Journal α} {token : Nat} {wait : Wait}
    {A : List TxnEvent} {s s' : Sys Journal} {q : Except Fault (Except Fault α)}
    (hl : Live u c o s.world) (hst : Steady u o s.world) (hin : InAttempt c o A s.world)
    (hbody : ∀ q s₁, exec body s = (q, s₁) → Runs u c o A s s₁)
    (hx : exec (Exec.outcomeOf body token wait) s = (q, s')) :
    (∃ res, q = .ok res) ∧ Runs u c o A s s' := by
  have hrun := hbody _ _ rfl
  cases wait with
  | blocking =>
    simp only [Exec.outcomeOf, exec_outcome] at hx
    obtain ⟨rfl, rfl⟩ := Prod.mk.inj hx
    exact ⟨⟨_, rfl⟩, hrun⟩
  | async t =>
    simp only [Exec.outcomeOf, Cancellation.isCancelled, exec_bind, exec_world, World.cancelled_eq,
      exec_pure] at hx
    by_cases hc : s.world.tokens[token]?.getD false = true
    · simp only [hc, if_true, exec_pure] at hx
      obtain ⟨rfl, rfl⟩ := Prod.mk.inj hx
      exact ⟨⟨_, rfl⟩, Runs.refl hl hst hin⟩
    simp only [hc, Bool.false_eq_true, if_false, exec_bind, exec_outcome] at hx
    cases hq : (exec body s).1 with
    | ok a =>
      simp only [hq, exec_bind, exec_world, exec_pure] at hx
      split at hx <;> obtain ⟨rfl, rfl⟩ := Prod.mk.inj hx <;> exact ⟨⟨_, rfl⟩, hrun⟩
    | error err =>
      simp only [hq, exec_pure] at hx
      obtain ⟨rfl, rfl⟩ := Prod.mk.inj hx
      exact ⟨⟨_, rfl⟩, hrun⟩

/-- Finishing a scope: a failure aborts it, and disposing it then rolls back and invalidates
the unit unless the scope completed. The outcome is the work's. -/
theorem Exec.finish_spec {α : Type} {h : Hooks σ} {e : Nat} {res : Except Fault α} {wait : Wait}
    {A : List TxnEvent} {s s' : Sys σ} {r : Except Fault (α × Bool)} (hl : Live u c o s.world)
    (hst : Steady u o s.world) (hin : InAttempt c o A s.world) (he : e < s.world.execs.size)
    (hshape : (s.world.execs[e]?.getD default).shape = (u, c))
    (hfresh : (s.world.execs[e]?.getD default).disposed = false)
    (hx : exec (Exec.finish h e res wait) s = (r, s')) :
    Within u c o A s s' ∧ s'.host = s.host ∧
      (∀ i, i ≠ e → s'.world.execs[i]?.getD default = s.world.execs[i]?.getD default) ∧
      ((∃ v, r = .ok (v, true)) ∨
        ((s'.world.observers[o]?.getD default).aborted = true ∧
          (s'.world.contexts[c]?.getD default).txn = none)) := by
  simp only [Exec.finish] at hx
  cases res with
  | error err =>
    simp only [exec_bind, Exec.abort_exec, Exec.isCompleted_exec, exec_outcome] at hx
    have hw₁ := Within.of_execs (A := A) hl hst hin (s.world.execs.modify e fun _ =>
        { s.world.execs[e]?.getD default with completed := false }) (by simp)
      (fun i _ => World.getD_modify_view _ _ _ _ _ _ rfl)
    have hget : (s.world.execs.modify e fun _ =>
        { s.world.execs[e]?.getD default with completed := false })[e]?.getD default =
          { s.world.execs[e]?.getD default with completed := false } := by
      simp [World.getD_modify_of_lt _ _ _ he]
    rcases hd : exec (Exec.dispose h e wait) { s with world := { s.world with execs :=
      (s.world.execs.modify e fun _ => { s.world.execs[e]?.getD default with completed := false }) } }
      with ⟨q, s₂⟩
    obtain ⟨rfl, hw₂, hh₂, he₂, hrb⟩ := Exec.dispose_spec hw₁.live hw₁.steady hw₁.attempt
      (by rw [hget]; exact hshape) hd
    simp only [hd, exec_ofExcept, settle] at hx
    obtain ⟨rfl, rfl⟩ := Prod.mk.inj hx
    refine ⟨hw₁.trans hw₂, hh₂, fun i hi => ?_, .inr (hrb (by rw [hget]; exact hfresh) (by rw [hget]))⟩
    rw [he₂ i hi]
    simp [Array.getElem?_modify, Ne.symm hi]
  | ok v =>
    simp only [exec_bind, Exec.isCompleted_exec, exec_outcome] at hx
    rcases hd : exec (Exec.dispose h e wait) s with ⟨q, s₂⟩
    obtain ⟨rfl, hw₂, hh₂, he₂, hrb⟩ := Exec.dispose_spec hl hst hin hshape hd
    simp only [hd, exec_ofExcept, settle] at hx
    obtain ⟨rfl, rfl⟩ := Prod.mk.inj hx
    refine ⟨hw₂, hh₂, he₂, ?_⟩
    cases hc : (s.world.execs[e]?.getD default).completed with
    | true => exact .inl ⟨v, rfl⟩
    | false => exact .inr (hrb hfresh hc)

/-- Work run in an undisposed scope of the unit: the attempt goes on in its phase, the
work's marks are recorded, no other scope is disposed, and unless the scope completed with
a value, the unit ends invalidated with no transaction open. -/
theorem Exec.runWork_spec {α : Type} {h : Hooks Journal} {e : Nat} {body : Act Journal α}
    {wait : Wait} {A : List TxnEvent} {s s' : Sys Journal} {r : Except Fault (α × Bool)}
    (hl : Live u c o s.world) (hst : Steady u o s.world) (hin : InAttempt c o A s.world)
    (he : e < s.world.execs.size) (hshape : (s.world.execs[e]?.getD default).shape = (u, c))
    (hfresh : (s.world.execs[e]?.getD default).disposed = false)
    (hbody : ∀ q s₁, exec body s = (q, s₁) → Runs u c o A s s₁)
    (hx : exec (Exec.runWork h e body wait) s = (r, s')) :
    Within u c o A s s' ∧ (∃ J, s'.host = s.host ++ J ∧ Sound J) ∧
      (∀ i < s.world.execs.size, i ≠ e →
        (s'.world.execs[i]?.getD default).disposed = (s.world.execs[i]?.getD default).disposed) ∧
      ((∃ v, r = .ok (v, true)) ∨
        ((s'.world.observers[o]?.getD default).aborted = true ∧
          (s'.world.contexts[c]?.getD default).txn = none)) := by
  rw [Exec.runWork_eq] at hx
  simp only [exec_bind, Exec.get, exec_world, exec_pure, World.exec_eq] at hx
  rcases ho : exec (Exec.outcomeOf body (s.world.execs[e]?.getD default).token wait) s with ⟨q, s₁⟩
  obtain ⟨⟨res, rfl⟩, hr₁⟩ := Exec.outcomeOf_spec hl hst hin hbody ho
  simp only [ho] at hx
  obtain ⟨hw₂, hh₂, he₂, hend⟩ := Exec.finish_spec hr₁.live hr₁.steady hr₁.attempt
    (Nat.lt_of_lt_of_le he hr₁.frame.execs_size) (by rw [hr₁.frame.execs e he]; exact hshape)
    (by rw [hr₁.disposed e he]; exact hfresh) hx
  obtain ⟨J, hJ, hsound⟩ := hr₁.journal
  refine ⟨hr₁.toWithin.trans hw₂, ⟨J, by rw [hh₂, hJ], hsound⟩, fun i hi hie => ?_, hend⟩
  rw [he₂ i hie, hr₁.disposed i hi]

end ScopedWork

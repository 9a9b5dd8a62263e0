import ScopedWork.Proofs.Coherent
import ScopedWork.Proofs.Invalidated
import ScopedWork.Proofs.Attempt.Commit

/-!
# A failed save leaves the stores as it found them

A save asks the context's interceptors first (an observer may start its unit's transaction
there), waits for the database, writes the tracker's changes and last tells every
interceptor how it went. When it fails, at whatever point, the three stores it could have
touched are as before: the tracker, the log of the open transaction (a transaction that an
observer began for it is open with an empty log) and the committed tables. The one exception
is a commit of the save's own transaction that applied its changes and then lost the
connection: the tables hold the changes, while the tracker still has them pending. The save
ends by telling each of the context's interceptors, the same as when it started, of the
failure, once.

This holds as long as the host's hooks leave these stores alone (`Frozen`): a hook that adds
an entity to the context while it is asked about the save changes the tracker of a save that
then fails.

What a step may do is said once, as a change that leaves the context and the database alone
(`Calm`); the steps that do touch the database (beginning a transaction, writing the changes)
are followed one by one.
-/

namespace ScopedWork

open Act

variable {σ : Type}

namespace Context

/-- The open transaction of context `c` in `w`, against `w₀`: the one it had, with the same
log; or, where it had none, none or one begun since, with an empty log. -/
def LogKept (c : Nat) (w₀ w : World) : Prop :=
  match (w₀.context c).txn with
  | some T => (w.context c).txn = some T ∧ w.db.txns.find? T = w₀.db.txns.find? T
  | none => ∀ T, (w.context c).txn = some T → ∃ t, w.db.txns.find? T = some t ∧ t.log = []

/-- What a failed save leaves of context `c` as it was in `w₀`: its tracker, its interceptors
and its open transaction with its log; the context exists, the transactions are well formed
and the one in the context's slot is active. -/
structure Untouched (c : Nat) (w₀ w : World) : Prop where
  lt : c < w.contexts.size
  tracker : (w.context c).tracker = (w₀.context c).tracker
  interceptors : (w.context c).interceptors = (w₀.context c).interceptors
  wf : w.db.txns.Wf
  log : LogKept c w₀ w
  active : ∀ T, (w.context c).txn = some T → ∃ t, w.db.txns.find? T = some t

/-- `Untouched`, with the committed tables and the injected commit failure as they were. -/
structure Frozen (c : Nat) (w₀ w : World) : Prop extends Untouched c w₀ w where
  tables : w.db.tables = w₀.db.tables
  commitFault : w.db.commitFault = w₀.db.commitFault

/-- A change that leaves context `c` and the database alone, and removes no context. -/
structure Calm (c : Nat) (w w' : World) : Prop where
  context : w'.context c = w.context c
  db : w'.db = w.db
  size : w.contexts.size ≤ w'.contexts.size

variable {c : Nat} {w₀ w₁ w w' : World}

namespace LogKept

theorem refl (w : World) : LogKept c w w := by
  unfold LogKept
  cases h : (w.context c).txn with
  | some T => exact ⟨rfl, rfl⟩
  | none => exact fun T hT => nomatch hT

theorem trans (h₁ : LogKept c w₀ w₁) (h₂ : LogKept c w₁ w) : LogKept c w₀ w := by
  unfold LogKept at *
  cases h₀ : (w₀.context c).txn with
  | some T =>
    simp only [h₀] at h₁
    obtain ⟨hs₁, hf₁⟩ := h₁
    simp only [hs₁] at h₂
    exact ⟨h₂.1, h₂.2.trans hf₁⟩
  | none =>
    simp only [h₀] at h₁
    intro T hT
    cases hs₁ : (w₁.context c).txn with
    | some T₁ =>
      simp only [hs₁] at h₂
      obtain ⟨t, ht, hlog⟩ := h₁ T₁ hs₁
      rw [h₂.1, Option.some.injEq] at hT
      subst hT
      exact ⟨t, h₂.2.trans ht, hlog⟩
    | none =>
      simp only [hs₁] at h₂
      exact h₂ T hT

/-- The slot stays, and so does the transaction in it: the log is kept. -/
theorem of_find? (hl : LogKept c w₀ w) (hslot : (w'.context c).txn = (w.context c).txn)
    (hfind : ∀ T, (w.context c).txn = some T → w'.db.txns.find? T = w.db.txns.find? T) :
    LogKept c w₀ w' := by
  unfold LogKept at *
  cases h₀ : (w₀.context c).txn with
  | some T =>
    simp only [h₀] at hl
    exact ⟨hslot.trans hl.1, (hfind T hl.1).trans hl.2⟩
  | none =>
    simp only [h₀] at hl
    intro T hT
    rw [hfind T (hslot ▸ hT)]
    exact hl T (hslot ▸ hT)

end LogKept

namespace Untouched

theorem refl (hlt : c < w.contexts.size) (hwf : w.db.txns.Wf)
    (hactive : ∀ T, (w.context c).txn = some T → ∃ t, w.db.txns.find? T = some t) : Untouched c w w :=
  ⟨hlt, rfl, rfl, hwf, LogKept.refl w, hactive⟩

theorem trans (h₁ : Untouched c w₀ w₁) (h₂ : Untouched c w₁ w) : Untouched c w₀ w :=
  ⟨h₂.lt, h₂.tracker.trans h₁.tracker, h₂.interceptors.trans h₁.interceptors, h₂.wf,
    h₁.log.trans h₂.log, h₂.active⟩

/-- A new database, while context `c` has no transaction: only its well-formedness matters. -/
theorem of_db (hu : Untouched c w₀ w) (hnone : (w.context c).txn = none) {db : Database}
    (hwf : db.txns.Wf) : Untouched c w₀ { w with db } where
  lt := hu.lt
  tracker := hu.tracker
  interceptors := hu.interceptors
  wf := hwf
  log := hu.log.of_find? rfl fun _ hT => nomatch hnone.symm.trans hT
  active _ hT := nomatch hnone.symm.trans hT

end Untouched

namespace Frozen

theorem refl (hu : Untouched c w₀ w) : Frozen c w w :=
  ⟨Untouched.refl hu.lt hu.wf hu.active, rfl, rfl⟩

theorem of_calm (hf : Frozen c w₀ w) (hc : Calm c w w') : Frozen c w₀ w' where
  lt := Nat.lt_of_lt_of_le hf.lt hc.size
  tracker := by rw [hc.context]; exact hf.tracker
  interceptors := by rw [hc.context]; exact hf.interceptors
  wf := hc.db ▸ hf.wf
  log := hf.log.of_find? (by rw [hc.context]) fun _ _ => by rw [hc.db]
  active T hT := by rw [hc.db]; exact hf.active T (by rw [← hc.context]; exact hT)
  tables := by rw [hc.db]; exact hf.tables
  commitFault := by rw [hc.db]; exact hf.commitFault

/-- A new database with the same committed tables, commit failure and transactions. -/
theorem of_db (hf : Frozen c w₀ w) {db : Database} (htab : db.tables = w.db.tables)
    (hcf : db.commitFault = w.db.commitFault) (htxns : db.txns = w.db.txns) : Frozen c w₀ { w with db } where
  lt := hf.lt
  tracker := hf.tracker
  interceptors := hf.interceptors
  wf := htxns ▸ hf.wf
  log := hf.log.of_find? rfl fun _ _ => by rw [htxns]
  active T hT := by rw [htxns]; exact hf.active T hT
  tables := htab.trans hf.tables
  commitFault := hcf.trans hf.commitFault

end Frozen

namespace Calm

theorem of_eq (hctx : w'.contexts = w.contexts) (hdb : w'.db = w.db) : Calm c w w' :=
  ⟨by simp only [World.context_eq, hctx], hdb, Nat.le_of_eq (congrArg Array.size hctx).symm⟩

/-- A new context at the end leaves the existing ones alone. -/
theorem push (hlt : c < w.contexts.size) : Calm c w { w with contexts := w.contexts.push {} } :=
  ⟨by simp [Array.getElem?_push, Nat.ne_of_lt hlt], rfl, by simp⟩

end Calm

/-- The committed tables of `w` are those of `w₀`, or the changes that context `c` tracked in
`w₀`, committed on them by a transaction of their own whose acknowledgement was lost. -/
def TablesKept (c : Nat) (w₀ w : World) : Prop :=
  w.db.tables = w₀.db.tables ∨ (w₀.db.commitFault = some .afterApply ∧
    ∃ n, Change.applyAll (w₀.context c).tracker.detectChanges w₀.db.tables = .ok (w.db.tables, n))

theorem TablesKept.of_tables (hk : TablesKept c w₀ w) (htab : w'.db.tables = w.db.tables) :
    TablesKept c w₀ w' := by
  unfold TablesKept at hk ⊢
  rw [htab]
  exact hk

/-- A new transaction for context `c'`, whose slot was empty: the committed tables stay, and
so does the transaction of context `c`, which is not the new one; when `c'` is `c`, the new
transaction goes into the empty slot with an empty log. -/
theorem Frozen.begin (hf : Frozen c w₀ w) {c' : Nat} {iso : Option Isolation} (hfree : (w.context c').txn = none)
    (htx : w'.db.txns = (w.db.txns.begin iso).1) (htab : w'.db.tables = w.db.tables)
    (hcf : w'.db.commitFault = w.db.commitFault)
    (hctx : w'.context c = if c' = c then { w.context c with txn := some w.db.txns.next } else w.context c)
    (hsize : w.contexts.size ≤ w'.contexts.size) : Frozen c w₀ w' := by
  have hfind : ∀ j, w'.db.txns.find? j =
      if j = w.db.txns.next then some { id := w.db.txns.next, isolation := iso } else w.db.txns.find? j := by
    rw [htx]
    exact TxnManager.find?_begin hf.wf iso
  have hwf : w'.db.txns.Wf := by rw [htx]; exact hf.wf.begin iso
  have hlt : c < w'.contexts.size := Nat.lt_of_lt_of_le hf.lt hsize
  by_cases hc : c' = c
  · -- the new transaction goes into `c`'s slot, which was empty, as it was in `w₀`
    subst hc
    rw [if_pos rfl] at hctx
    have h₀ : (w₀.context c').txn = none := by
      have hl := hf.log
      unfold LogKept at hl
      cases h₀ : (w₀.context c').txn with
      | none => rfl
      | some T =>
        simp only [h₀, hfree] at hl
        exact absurd hl.1 nofun
    have hnew : w'.db.txns.find? w.db.txns.next = some { id := w.db.txns.next, isolation := iso } := by
      rw [hfind, if_pos rfl]
    refine ⟨⟨hlt, by rw [hctx]; exact hf.tracker, by rw [hctx]; exact hf.interceptors, hwf, ?_, ?_⟩,
      htab.trans hf.tables, hcf.trans hf.commitFault⟩
    · unfold LogKept
      rw [h₀, hctx]
      intro T hT
      cases hT
      exact ⟨_, hnew, rfl⟩
    · intro T hT
      rw [hctx] at hT
      cases hT
      exact ⟨_, hnew⟩
  · -- another context's slot: `c`'s transaction is an older one, kept as it was
    rw [if_neg hc] at hctx
    have hold : ∀ T, (w.context c).txn = some T → w'.db.txns.find? T = w.db.txns.find? T := by
      intro T hT
      obtain ⟨t, ht⟩ := hf.active T hT
      rw [hfind, if_neg (Nat.ne_of_lt (hf.wf.find?_some ht).2.2)]
    refine ⟨⟨hlt, by rw [hctx]; exact hf.tracker, by rw [hctx]; exact hf.interceptors, hwf,
      hf.log.of_find? (by rw [hctx]) hold, fun T hT => ?_⟩, htab.trans hf.tables, hcf.trans hf.commitFault⟩
    rw [hctx] at hT
    rw [hold T hT]
    exact hf.active T hT

end Context

/-! ### Steps that keep the stores -/

section Steps

open Context (Frozen Calm)

variable {c : Nat} {w₀ : World}

theorem frozen_of_calm {α : Type} {x : Act σ α}
    (hx : ∀ ⦃s s' : Sys σ⦄ ⦃r : Except Fault α⦄, Frozen c w₀ s.world → exec x s = (r, s') →
      Calm c s.world s'.world) :
    Keeps (Frozen c w₀) x :=
  fun _ _ _ hi h => hi.of_calm (hx hi h)

theorem modifyWorld_frozen {f : World → World} (hf : ∀ w, Frozen c w₀ w → Calm c w (f w)) :
    Keeps (σ := σ) (Frozen c w₀) (Act.modifyWorld f) :=
  .modifyWorld fun w hi => hi.of_calm (hf w hi)

theorem Wait.roundTrip_frozen (wait : Wait) : Keeps (σ := σ) (Frozen c w₀) wait.roundTrip :=
  frozen_of_calm fun s s' r _ hx => by
    obtain ⟨-, hs⟩ := Wait.roundTrip_spec hx
    rw [hs]
    exact Calm.of_eq rfl rfl

theorem UnitOfWork.modify_frozen (u : Nat) (f : UnitState → UnitState) :
    Keeps (σ := σ) (Frozen c w₀) (UnitOfWork.modify u f) :=
  modifyWorld_frozen fun _ _ => Calm.of_eq rfl rfl

theorem UnitOfWork.modifyObserver_frozen (o : Nat) (f : ObserverState → ObserverState) :
    Keeps (σ := σ) (Frozen c w₀) (UnitOfWork.modifyObserver o f) :=
  modifyWorld_frozen fun _ _ => Calm.of_eq rfl rfl

theorem UnitOfWork.locked_frozen {α : Type} (u : Nat) {body : Act σ α} (hb : Keeps (Frozen c w₀) body) :
    Keeps (Frozen c w₀) (UnitOfWork.locked u body) := by
  refine .bind ?_ fun _ => .bind (.outcome hb) fun _ =>
    .bind (UnitOfWork.modify_frozen u _) fun _ => .ofExcept _
  refine .bind (UnitOfWork.get_framed u) fun x => ?_
  split
  · exact UnitOfWork.modify_frozen u _
  · exact .throw _
  · exact .throw _

theorem Factory.create_frozen (f : Nat) : Keeps (σ := σ) (Frozen c w₀) (Factory.create f) :=
  Factory.create_keeps_of (fun _ => modifyWorld_frozen fun _ _ => Calm.of_eq rfl rfl)
    (.bind .world fun _ => .bind (modifyWorld_frozen fun _ hi => Calm.push hi.lt) fun _ => .pure _)

theorem UnitOfWork.context_frozen (u : Nat) : Keeps (σ := σ) (Frozen c w₀) (UnitOfWork.context u) := by
  refine .bind (UnitOfWork.get_framed u) fun x => ?_
  split
  · exact .pure _
  · refine UnitOfWork.locked_frozen u (.bind (UnitOfWork.get_framed u) fun _ => ?_)
    split
    · exact .pure _
    · exact .bind (UnitOfWork.get_framed u) fun _ => .bind (Factory.create_frozen _) fun _ =>
        .bind (UnitOfWork.modify_frozen u _) fun _ => .pure _

section Hooks

variable {h : Hooks σ} (hh : Hooks.Keep (Frozen c w₀) h)
include hh

theorem Context.notifyEach_frozen (c' : Nat) (ns : List Notice) :
    Keeps (Frozen c w₀) (Context.notifyEach h c' ns) :=
  .bind (Context.interceptorsNow_framed c') fun _ => .ofRun (Run.Keeps.forM fun i _ =>
    Run.Keeps.forM fun n _ => by
      cases i with
      | observer o => exact Run.Keeps.modifyWorld fun _ hi => hi.of_calm (Calm.of_eq rfl rfl)
      | host k => exact hh.notice k n)

theorem Observer.guard_frozen (o : Nat) (listeners : ObserverState → List Nat) :
    Keeps (Frozen c w₀) (Observer.guard h o listeners) := by
  refine .bind .world fun _ => ?_
  dsimp only
  split
  · exact .bind (.throw _) fun _ => .forM fun k _ => hh.listen k
  · exact .forM fun k _ => hh.listen k

theorem Context.guardEach_frozen (c' : Nat) (g : Guard) {onObserver : Nat → Act σ Unit}
    (ho : ∀ o, Keeps (Frozen c w₀) (onObserver o)) : Keeps (Frozen c w₀) (Context.guardEach h c' g onObserver) :=
  .bind (Context.interceptorsNow_framed c') fun _ => .forM fun i _ => by
    cases i with
    | observer o => exact ho o
    | host k => exact hh.guard k g

theorem Context.failedThrough_frozen (c' : Nat) (act : TxnAction) (e : Fault) :
    Keeps (Frozen c w₀) (Context.failedThrough h c' act e) :=
  .bind (.bind .world fun _ => .pure _) fun _ => .ofRun (Run.Keeps.foldlM (fun e i => by
    cases i with
    | observer o => exact Run.Keeps.bind Run.Keeps.world fun _ => Run.Keeps.pure _
    | host k => exact hh.failed k act e) e)

/-- Beginning a transaction on any context keeps the stores of context `c`: the new transaction
is not `c`'s, or it goes into `c`'s empty slot. -/
theorem Context.begin_frozen (c' : Nat) (iso : Option Isolation) (wait : Wait) :
    Keeps (Frozen c w₀) (Context.begin h c' iso wait) := by
  refine .bind (Wait.roundTrip_frozen wait) fun _ =>
    .bind (Context.guardEach_frozen hh c' _ fun o => Observer.guard_frozen hh o _) fun _ => ?_
  refine Keeps.of_endsIn fun s hi => ((Context.hasTxn_framed c').endsIn hi).bind fun b s₁ h₁ => ?_
  simp only [Context.hasTxn, exec_bind, exec_world, exec_pure, Prod.mk.injEq, Except.ok.injEq] at h₁
  obtain ⟨rfl, rfl⟩ := h₁
  dsimp only
  split
  · intro r s' hx
    simp only [exec_bind, exec_throw, Prod.mk.injEq] at hx
    rw [← hx.2]
    exact hi
  · rename_i hfree
    have hfree : (s.world.context c').txn = none := by simpa using hfree
    intro r s' hx
    simp only [exec_bind, exec_outcome, exec_database] at hx
    by_cases hfault : 0 < s.world.db.transientFaults
    · -- the database refused: one injected fault is used up, and the interceptors have their say
      rw [Database.begin_run_fault iso _ hfault] at hx
      have hi₁ : Frozen c w₀ { s.world with
          db := { s.world.db with transientFaults := s.world.db.transientFaults - 1 } } :=
        hi.of_db rfl rfl rfl
      exact (Keeps.bind (Context.failedThrough_frozen hh c' .begin _) fun _ => .throw _) hi₁ hx
    · rw [Database.begin_run iso _ (by omega)] at hx
      simp only [Context.modify, exec_bind, exec_modifyWorld, exec_pure, Prod.mk.injEq] at hx
      rw [← hx.2]
      refine hi.begin hfree rfl rfl rfl ?_ (by simp [World.setContext])
      split
      · rename_i hc
        subst hc
        exact World.context_setContext_self _ hi.lt
      · rename_i hc
        simp [World.context_eq, World.setContext, Array.getElem?_modify, hc]

theorem UnitOfWork.tryStart_frozen (u : Nat) (wait : Wait) :
    Keeps (Frozen c w₀) (UnitOfWork.tryStart h u wait) := by
  refine .bind (UnitOfWork.context_frozen u) fun c' => .bind (Context.hasTxn_framed c') fun _ => ?_
  split
  · exact .pure _
  · refine UnitOfWork.locked_frozen u (.bind (Context.hasTxn_framed c') fun _ => ?_)
    split
    · exact .pure _
    · exact .bind UnitOfWork.ensureNoExternal_framed fun _ => .bind (UnitOfWork.isolation_framed u) fun iso =>
        .bind (Context.begin_frozen hh c' iso wait) fun _ => .pure _

theorem Observer.beforeSave_frozen (o : Nat) (wait : Wait) :
    Keeps (Frozen c w₀) (Observer.beforeSave h o wait) :=
  .bind (UnitOfWork.modifyObserver_frozen o _) fun _ => .bind .world fun _ =>
    .bind (UnitOfWork.tryStart_frozen hh _ wait) fun _ => .pure _

end Hooks

end Steps

/-! ### Failing saves -/

section Failing

open Context (Untouched Frozen TablesKept)

variable {c : Nat} {w₀ : World} {s s' : Sys σ} {e : Fault}

/-- A flush that fails, from a state where context `c` kept its stores since `w₀`: the tracker
and the open transaction's log are kept, and so are the committed tables, unless the changes were
committed in a transaction of their own and only the acknowledgement was lost. -/
theorem Context.flush_fails (hf : Frozen c w₀ s.world) (hx : exec (flush c) s = (.error e, s')) :
    Untouched c w₀ s'.world ∧ TablesKept c w₀ s'.world := by
  simp only [flush, exec_bind, exec_world] at hx
  split at hx
  · -- with nothing to write, the flush succeeds
    simp only [exec_pure, Prod.mk.injEq, reduceCtorEq, false_and] at hx
  rcases hw : exec (writeChanges c (s.world.context c).tracker.detectChanges) s with ⟨q, s₁⟩
  rw [exec_bind, hw] at hx
  cases q with
  | ok n =>
    simp only [modify, exec_bind, exec_modifyWorld, exec_pure, Prod.mk.injEq, reduceCtorEq, false_and] at hx
  | error e' =>
    obtain ⟨-, rfl⟩ := Prod.mk.inj hx
    cases hslot : (s.world.context c).txn with
    | some T =>
      obtain ⟨t, ht⟩ := hf.active T hslot
      rcases Context.writeChanges_in hslot hf.wf ht hw with ⟨_, -, rfl⟩ | ⟨_, _, _, _, -, -, hr, -⟩
      · exact ⟨hf.toUntouched, .inl hf.tables⟩
      · cases hr
    | none =>
      obtain ⟨hs₁, hwf₁, -, hres⟩ := Context.writeChanges_own_cases hslot hf.wf hw
      refine ⟨by rw [hs₁]; exact hf.toUntouched.of_db hslot hwf₁, ?_⟩
      rcases hres with ⟨n, happ, -, ⟨hr, -⟩ | ⟨-, hafter⟩⟩ | ⟨htab, -⟩
      · cases hr
      · rw [hf.tracker, hf.tables] at happ
        exact .inr ⟨hf.commitFault ▸ hafter, n, happ⟩
      · exact .inl (htab.trans hf.tables)

/-- The writing phase of a save, once the interceptors were asked: it fails as a flush does, or
before writing anything. -/
theorem Context.write_fails {prepared : Except Fault Unit} {wait : Wait} (hf : Frozen c w₀ s.world)
    (hx : exec (do Act.ofExcept prepared; wait.roundTrip; flush c) s = (.error e, s')) :
    Untouched c w₀ s'.world ∧ TablesKept c w₀ s'.world := by
  cases prepared with
  | error e' =>
    simp only [exec_bind, exec_ofExcept, Prod.mk.injEq] at hx
    obtain ⟨-, rfl⟩ := hx
    exact ⟨hf.toUntouched, .inl hf.tables⟩
  | ok u =>
    simp only [exec_bind, exec_ofExcept] at hx
    rcases h₁ : exec wait.roundTrip s with ⟨q, s₁⟩
    have hf₁ := Wait.roundTrip_frozen wait hf h₁
    rw [h₁] at hx
    cases q with
    | error e' =>
      obtain ⟨-, rfl⟩ := Prod.mk.inj hx
      exact ⟨hf₁.toUntouched, .inl hf₁.tables⟩
    | ok u => exact Context.flush_fails hf₁ hx

/-- A save that fails, where every hook keeps the stores of context `c`, keeps them too: the
tracker, the interceptors and the log of the open transaction are as they were (a transaction
begun by an interceptor is left open with an empty log), and so are the committed tables, unless
the changes were committed in a transaction of their own and only the acknowledgement was lost.
The save ends by telling every interceptor, once, that it failed. -/
theorem failed_save_changes_nothing {h : Hooks σ} {wait : Wait}
    (hh : ∀ w₀, Hooks.Keep (Frozen c w₀) h) (hlt : c < s.world.contexts.size) (hwf : s.world.db.txns.Wf)
    (hactive : ∀ T, (s.world.context c).txn = some T → ∃ t, s.world.db.txns.find? T = some t)
    (hx : exec (Context.save h c wait) s = (.error e, s')) :
    Untouched c s.world s'.world ∧ TablesKept c s.world s'.world ∧
      ∃ s₁, Untouched c s.world s₁.world ∧ exec (Context.notifyEach h c [.saveFailed]) s₁ = (.ok (), s') := by
  have hf₀ : Frozen c s.world s.world := Frozen.refl (Untouched.refl hlt hwf hactive)
  have h₁ : exec (Context.interceptorsNow c) s = (.ok (s.world.context c).interceptors, s) := by
    simp [Context.interceptorsNow]
  rw [Context.save, exec_bind, h₁] at hx
  obtain ⟨prepared, s₂, h₂, hx⟩ := exec_outcome_bind_eq hx
  have hf₂ : Frozen c s.world s₂.world := by
    refine (Keeps.forM fun i _ => ?_) hf₀ h₂
    cases i with
    | observer o => exact Observer.beforeSave_frozen (hh _) o wait
    | host k => exact (hh _).guard k _
  obtain ⟨result, s₃, h₃, hx⟩ := exec_outcome_bind_eq hx
  cases result with
  | ok n =>
    -- telling the interceptors never fails, so the save succeeds
    rcases h₄ : exec (Context.notifyEach h c [.savedChanges n]) s₃ with ⟨q, s₄⟩
    have hq : q = .ok () := by rw [← Context.notifyEach_ok h c [.savedChanges n] s₃, h₄]
    subst hq
    simp only [exec_bind, h₄, exec_ofExcept, Prod.mk.injEq, reduceCtorEq, false_and] at hx
  | error e' =>
    obtain ⟨hu₃, hk₃⟩ := Context.write_fails hf₂ h₃
    rcases h₄ : exec (Context.notifyEach h c [.saveFailed]) s₃ with ⟨q, s₄⟩
    have hq : q = .ok () := by rw [← Context.notifyEach_ok h c [.saveFailed] s₃, h₄]
    subst hq
    simp only [exec_bind, h₄, exec_ofExcept, Prod.mk.injEq] at hx
    obtain ⟨-, rfl⟩ := hx
    have hf₄ := Context.notifyEach_frozen (hh s₃.world) c [.saveFailed] (Frozen.refl hu₃) h₄
    exact ⟨hu₃.trans hf₄.toUntouched, hk₃.of_tables hf₄.tables, s₃, hu₃, h₄⟩

/-- One context tracking one added row, with these interceptors, on an empty database that
refuses to start the next `refusals` transactions. -/
def oneAdded (interceptors : List Interceptor) (refusals : Nat) : Sys Unit :=
  { world :=
      { db := { transientFaults := refusals }
        contexts := #[{ tracker := ⟨[(("items", 1), ⟨.added, none, .text "a", 0⟩)]⟩, interceptors }] }
    host := () }

/-- The transaction of its own that saving one added row needs cannot start: the save fails and
keeps the stores. -/
theorem refused_start_changes_nothing :
    Untouched 0 (oneAdded [] 1).world (exec (Context.save Hooks.quiet 0 .blocking) (oneAdded [] 1)).2.world ∧
      TablesKept 0 (oneAdded [] 1).world (exec (Context.save Hooks.quiet 0 .blocking) (oneAdded [] 1)).2.world ∧
      ∃ s₁, Untouched 0 (oneAdded [] 1).world s₁.world ∧
        exec (Context.notifyEach Hooks.quiet 0 [.saveFailed]) s₁ =
          (.ok (), (exec (Context.save Hooks.quiet 0 .blocking) (oneAdded [] 1)).2) :=
  failed_save_changes_nothing (fun _ => Hooks.quiet_keep _) (by decide) ⟨nofun, List.nodup_nil⟩
    (fun _ hT => nomatch hT)
    (Execution.exec_eq_of_fst (r := .error (.transient "The connection was reset while starting a transaction")) (by rfl))

/-- Hooks whose interceptor, asked before a save, tracks a second row and then refuses. -/
def trackingRefusal : Hooks Unit :=
  { Hooks.quiet with
    guard := fun _ g => match g with
      | .savingChanges => do
        Context.add Hooks.quiet 0 ("items", 2) (.text "b")
        throw (.other "refused")
      | _ => pure () }

/-- An interceptor that tracks a row and then refuses the save: the save fails, and the context
tracks one row more than before it. -/
theorem refused_save_keeps_what_its_interceptor_tracked :
    ((exec (Context.save trackingRefusal 0 .blocking) (oneAdded [.host 0] 0)).1 matches .error (.other _)) ∧
      ((exec (Context.save trackingRefusal 0 .blocking) (oneAdded [.host 0] 0)).2.world.context 0).tracker.entries.length
        = 2 := by
  decide +kernel

end Failing

end ScopedWork

import ScopedWork.Proofs.Held

/-!
# A root execution leaves no transaction behind

Whatever a root execution returns, the context of its unit of work holds no transaction. An
attempt that succeeds either committed, and a commit takes the transaction out of the slot
before the database ends it, or its scope was aborted, and then disposing the scope rolled
the transaction back. An attempt that fails is followed by the reset, which closes the
connection. Between attempts the strategy only waits, and preparing a fresh unit gives it a
new context with an empty slot.

The work and the hooks are assumed to leave the unit as the preparation set it (`Prepared`)
and the execution scope the work runs in open and with its unit (`ScopeOpen`).
-/

namespace ScopedWork

open Act

variable {σ : Type}

namespace Execution

/-- Unit `u`'s context, if it has one, holds no transaction. -/
def Settled (u : Nat) (w : World) : Prop :=
  ∀ c, (w.units[u]?.getD default).context = some c → w.slot c = none

/-- Execution scope `e` exists, belongs to unit `u` and is not disposed yet. -/
def ScopeOpen (e u : Nat) (w : World) : Prop :=
  e < w.execs.size ∧ (w.execs[e]?.getD default).unit = u ∧ (w.execs[e]?.getD default).disposed = false

theorem Settled.of_prepared {u c o : Nat} {a : AutoFlush} {w : World} (hk : Prepared u c o a w)
    (hs : w.slot c = none) : Settled u w := by
  intro c' hc'
  rw [hk.context] at hc'
  cases hc'
  exact hs

theorem Settled.of_clean {u c o : Nat} {a : AutoFlush} {w : World} (hr : Clean u c o a w) : Settled u w :=
  Settled.of_prepared hr.toPrepared hr.no_txn

instance (u : Nat) : Framed (Settled u) where
  same _ _ hs h c hc := by
    rw [hs.slots]
    exact h c (by rw [← hs.units]; exact hc)

/-- Giving a unit a context with an empty slot keeps unit `u` settled. -/
theorem Settled.setUnit {u u' c : Nat} {w : World} {x : UnitState} (h : Settled u w)
    (hs : w.slot c = none) (hx : x.context = some c) : Settled u (w.setUnit u' x) := by
  intro c' hc'
  show w.slot c' = none
  simp only [World.setUnit, Array.getElem?_modify] at hc'
  split at hc'
  · -- the unit given the context is `u`
    cases hu : w.units[u]? with
    | none =>
      rw [hu] at hc'
      exact h c' (by rw [hu]; exact hc')
    | some y =>
      rw [hu] at hc'
      simp only [Option.map_some, Option.getD_some, hx, Option.some.injEq] at hc'
      exact hc' ▸ hs
  · exact h c' hc'

end Execution

open Execution

/-! ## Preparing the unit

Preparing a unit promotes it, attaches its observer and gives it its context, created on
first use with an empty slot. Nothing of it begins a transaction. -/

section Framed

variable {I : World → Prop} [Framed I]

theorem UnitOfWork.observer_framed {u : Nat} (hctx : Keeps (σ := σ) I (UnitOfWork.context u)) :
    Keeps (σ := σ) I (UnitOfWork.observer u) := by
  refine .bind (UnitOfWork.get_framed u) fun _ => ?_
  split
  · exact .pure _
  · refine .bind hctx fun c => UnitOfWork.locked_framed u (.bind (UnitOfWork.get_framed u) fun _ => ?_)
    split
    · exact .pure _
    · refine .bind (UnitOfWork.get_framed u) fun _ => .bind .world fun _ => ?_
      refine .bind (.outcome (Context.addInterceptor_framed c _)) fun
        | .error _ => .throw _
        | .ok () => ?_
      exact .bind (Framed.modifyWorld fun _ => Same.of_eq rfl rfl rfl) fun _ =>
        .bind (UnitOfWork.modify_framed u fun _ => rfl) fun _ => .pure _

theorem UnitOfWork.promote_framed (u : Nat) (target : UnitMode) :
    Keeps (σ := σ) I (UnitOfWork.promote u target) := by
  have change : Keeps (σ := σ) I (do
      let m ← Act.ofExcept ((← UnitOfWork.get u).mode.transition target)
      UnitOfWork.modify u fun x => { x with mode := m }) :=
    .bind (UnitOfWork.get_framed u) fun _ => .bind (.ofExcept _) fun _ =>
      UnitOfWork.modify_framed u fun _ => rfl
  refine .bind (.bind (UnitOfWork.get_framed u) fun _ => .pure _) fun disposed => ?_
  cases disposed with
  | false => exact change
  | true => exact .bind (.throw _) fun _ => change

theorem UnitOfWork.prepareRoot_framed {u : Nat} (hctx : Keeps (σ := σ) I (UnitOfWork.context u)) :
    Keeps (σ := σ) I (UnitOfWork.prepareRoot u) :=
  .bind (UnitOfWork.promote_framed u _) fun _ => .bind (UnitOfWork.observer_framed hctx) fun _ =>
    .bind (.bind (UnitOfWork.observer_framed hctx) fun o => UnitOfWork.modifyObserver_framed o _) fun _ => hctx

end Framed

/-- Preparing unit `u` leaves it settled: its context, if it gets one, is new. -/
theorem UnitOfWork.prepareRoot_settled (u : Nat) : Keeps (σ := σ) (Settled u) (UnitOfWork.prepareRoot u) :=
  UnitOfWork.prepareRoot_framed (UnitOfWork.context_framed (fun _ _ _ _ hi _ hs hx => hi.setUnit hs hx) u)

/-! ## Ending a transaction that succeeds -/

/-- A commit or a rollback that succeeds leaves the slot empty: the transaction was taken
out of it before the database ended it. -/
theorem Context.finish_ok_slot {h : Hooks σ} {wait' : Act σ Unit} {act : TxnAction}
    {step : Nat → Database.Step Unit} {c : Nat} {s s' : Sys σ}
    (hx : exec (do
      wait'
      let t ← Context.takeTxn c
      match ← Act.outcome (Act.database (step t)) with
      | .ok () => pure ()
      | .error e => throw (← Context.failedThrough h c act e)) s = (.ok (), s')) :
    s'.world.slot c = none := by
  obtain ⟨_, s₁, -, hx⟩ := exec_bind_eq_ok hx
  obtain ⟨t, s₂, ht, hx⟩ := exec_bind_eq_ok hx
  cases hs : s₁.world.slot c with
  | none =>
    have hs' : (s₁.world.contexts[c]?.getD default).txn = none := hs
    simp [Context.takeTxn, Context.currentTxn, hs'] at ht
  | some t' =>
    rw [Context.takeTxn_exec hs, Prod.mk.injEq, Except.ok.injEq] at ht
    obtain ⟨rfl, rfl⟩ := ht
    rw [exec_bind, exec_outcome, exec_database] at hx
    rcases hr : ((step t').run).run s₁.world.db with ⟨_ | _, db⟩ <;> simp only [hr] at hx
    · -- a failure is passed through the interceptors and thrown
      obtain ⟨_, _, -, hx⟩ := exec_bind_eq_ok hx
      cases hx
    · simp only [exec_pure, Prod.mk.injEq] at hx
      rw [← hx.2]
      exact (World.slot_setContext_none s₁.world c rfl c).trans (if_pos rfl)

/-- A unit that finishes its transaction with success leaves its context's slot empty: either
the slot was empty, looked at before or under the lock, or `finish` emptied it. -/
theorem UnitOfWork.tryFinish_ok_slot {u c : Nat} {finish : Nat → Act σ Unit} {s s' : Sys σ} {b : Bool}
    (hctx : (s.world.units[u]?.getD default).context = some c)
    (hfin : ∀ s₁ s₂ : Sys σ, exec (finish c) s₁ = (.ok (), s₂) → s₂.world.slot c = none)
    (hx : exec (UnitOfWork.tryFinish u finish) s = (.ok b, s')) : s'.world.slot c = none := by
  simp only [UnitOfWork.tryFinish, exec_bind, UnitOfWork.context_exec hctx, Context.hasTxn, exec_world,
    exec_pure, World.context_eq] at hx
  cases hslot : s.world.slot c with
  | none =>
    have hslot' : (s.world.contexts[c]?.getD default).txn = none := hslot
    simp only [hslot', Option.isSome_none, Bool.not_false, if_true, exec_pure, Prod.mk.injEq] at hx
    rw [← hx.2]
    exact hslot
  | some t =>
    have hslot' : (s.world.contexts[c]?.getD default).txn = some t := hslot
    simp only [hslot', Option.isSome_some, Bool.not_true, Bool.false_eq_true, if_false] at hx
    obtain ⟨s₁, hb, rfl⟩ := UnitOfWork.locked_ok_inv hx
    simp only [exec_bind, exec_world, exec_pure, Sys.withLock_contexts, hslot', Option.isSome_some,
      Bool.not_true, Bool.false_eq_true, if_false] at hb
    rcases hf : exec (finish c) (s.withLock u .held) with ⟨_ | _, s₂⟩ <;>
      simp only [hf, Prod.mk.injEq, reduceCtorEq, false_and] at hb
    rw [← hb.2]
    exact hfin _ s₂ hf

theorem UnitOfWork.tryCommit_ok_slot {h : Hooks σ} {u c : Nat} {wait : Wait} {s s' : Sys σ} {b : Bool}
    (hctx : (s.world.units[u]?.getD default).context = some c)
    (hx : exec (UnitOfWork.tryCommit h u wait) s = (.ok b, s')) : s'.world.slot c = none :=
  UnitOfWork.tryFinish_ok_slot hctx (fun _ _ hf => Context.finish_ok_slot hf) hx

/-- Invalidating, then rolling back: the observer is only marked, so the unit keeps its
context, and a rollback that succeeds empties the slot. -/
theorem UnitOfWork.tryRollbackInvalidate_ok_slot {h : Hooks σ} {u c o : Nat} {a : AutoFlush} {wait : Wait}
    {s s' : Sys σ} {b : Bool} (hk : Prepared u c o a s.world)
    (hx : exec (UnitOfWork.tryRollbackInvalidate h u wait) s = (.ok b, s')) : s'.world.slot c = none := by
  obtain ⟨_, s₁, hi, hx⟩ := exec_bind_eq_ok hx
  have hk₁ := UnitOfWork.invalidate_keeps u hk hi
  exact UnitOfWork.tryFinish_ok_slot hk₁.context (fun _ _ hf => Context.finish_ok_slot hf) hx

/-- Disposing an open scope whose work did not complete rolls back its unit's transaction; if
the disposal succeeds, the slot is empty. -/
theorem Exec.dispose_ok_slot {h : Hooks σ} {e u c o : Nat} {a : AutoFlush} {wait : Wait} {s s' : Sys σ}
    (hk : Prepared u c o a s.world) (hopen : ScopeOpen e u s.world)
    (hc : (s.world.execs[e]?.getD default).completed = false)
    (hx : exec (Exec.dispose h e wait) s = (.ok (), s')) : s'.world.slot c = none := by
  obtain ⟨-, hu, hd⟩ := hopen
  simp only [Exec.dispose, Exec.get, Exec.modify, exec_bind, exec_world, exec_pure, World.exec_eq, hd, hc,
    hu, Bool.false_eq_true, if_false, Bool.not_false, if_true, exec_modifyWorld] at hx
  split at hx
  · rename_i hr
    obtain ⟨-, rfl⟩ := Prod.mk.inj hx
    refine UnitOfWork.tryRollbackInvalidate_ok_slot (o := o) (a := a) ?_ hr
    exact hk.of_eq rfl rfl
  · cases hx

/-- However the work of a scope ends, computing its outcome keeps what the work keeps. -/
theorem Exec.outcomeOf_keeps {α : Type} {I : World → Prop} {body : Act σ α} (hb : Keeps I body)
    (token : Nat) (wait : Wait) : Keeps I (Exec.outcomeOf body token wait) := by
  cases wait with
  | blocking => exact .outcome hb
  | async t =>
    refine .bind (.bind .world fun _ => .pure _) fun _ => ?_
    split
    · exact .pure _
    · refine .bind (.outcome hb) fun r => ?_
      cases r with
      | ok _ =>
        refine .bind (.bind .world fun _ => .pure _) fun _ => ?_
        split
        · exact .pure _
        · exact .pure _
      | error _ => exact .pure _

/-- Work run in an open scope that succeeds without completing the scope: the disposal rolled
the unit's transaction back, so the slot is empty. -/
theorem Exec.runWork_unfinished_slot {α : Type} {h : Hooks σ} {e u c o : Nat} {a : AutoFlush}
    {body : Act σ α} {wait : Wait} {s s' : Sys σ} {v : α}
    (hbk : Keeps (Prepared u c o a) body) (hbo : Keeps (ScopeOpen e u) body)
    (hk : Prepared u c o a s.world) (hopen : ScopeOpen e u s.world)
    (hx : exec (Exec.runWork h e body wait) s = (.ok (v, false), s')) : s'.world.slot c = none := by
  rw [Exec.runWork_eq] at hx
  obtain ⟨_, s₀, hg, hx⟩ := exec_bind_eq_ok hx
  simp only [Exec.get, exec_bind, exec_world, exec_pure, Prod.mk.injEq] at hg
  obtain ⟨-, rfl⟩ := hg
  obtain ⟨r, s₁, hr, hx⟩ := exec_bind_eq_ok hx
  have hk₁ := Exec.outcomeOf_keeps hbk _ _ hk hr
  have ho₁ := Exec.outcomeOf_keeps hbo _ _ hopen hr
  unfold Exec.finish at hx
  cases r with
  | error err =>
    simp [Exec.abort_exec, Exec.isCompleted_exec, settle, Except.map] at hx
  | ok v' =>
    simp only [exec_bind, Exec.isCompleted_exec, exec_outcome] at hx
    rcases hd : exec (Exec.dispose h e wait) s₁ with ⟨_ | _, s₂⟩ <;>
      simp [hd, settle, Except.map] at hx
    obtain ⟨⟨-, hc⟩, rfl⟩ := hx
    exact Exec.dispose_ok_slot hk₁ ho₁ hc hd

theorem Exec.invokeAndRun_unfinished_slot {α : Type} {h : Hooks σ} {e u c o : Nat} {a : AutoFlush}
    {work : Work σ α} {wait : Wait} {s s' : Sys σ} {v : α}
    (hwk : Work.Keeps (Prepared u c o a) work) (hwo : Work.Keeps (ScopeOpen e u) work)
    (hk : Prepared u c o a s.world) (hopen : ScopeOpen e u s.world)
    (hx : exec (Exec.invokeAndRun h e work wait) s = (.ok (v, false), s')) : s'.world.slot c = none := by
  unfold Exec.invokeAndRun at hx
  cases wait with
  | blocking =>
    exact Exec.runWork_unfinished_slot (.bind_of_ok (hwk e).1 fun _ _ _ hi hy => (hwk e).2 hi hy)
      (.bind_of_ok (hwo e).1 fun _ _ _ hi hy => (hwo e).2 hi hy) hk hopen hx
  | async t =>
    obtain ⟨p, s₁, hp, hx⟩ := exec_bind_eq_ok hx
    exact Exec.runWork_unfinished_slot ((hwk e).2 hk hp) ((hwo e).2 hopen hp) ((hwk e).1 hk hp)
      ((hwo e).1 hopen hp) hx

namespace Execution

/-- An attempt that succeeds leaves its unit's context without a transaction: it committed
after a completed scope, and an aborted scope rolled back when it was disposed. -/
theorem attempt_ok_slot {α : Type} {h : Hooks σ} {u c o : Nat} {a : AutoFlush} {options : Options}
    {work : Work σ α} {wait : Wait} {s s' : Sys σ} {v : α}
    (hh : Hooks.Keep (Prepared u c o a) h) (hwk : Work.Keeps (Prepared u c o a) work)
    (hwo : ∀ e, Work.Keeps (ScopeOpen e u) work) (hk : Prepared u c o a s.world)
    (hx : exec (attempt h u c options work wait) s = (.ok v, s')) : s'.world.slot c = none := by
  unfold attempt at hx
  obtain ⟨t, s₁, ht, hx⟩ := exec_bind_eq_ok hx
  have hk₁ := Wait.scopeToken_keeps wait hk ht
  obtain ⟨e, s₂, hc, hx⟩ := exec_bind_eq_ok hx
  rw [Exec.create_exec, Prod.mk.injEq, Except.ok.injEq] at hc
  obtain ⟨rfl, rfl⟩ := hc
  have hk₂ := Exec.create_keeps (I := Prepared u c o a) u c false t hk₁ (Exec.create_exec u c false t s₁)
  have ho₂ : ScopeOpen s₁.world.execs.size u
      { s₁ with world := { s₁.world with execs := s₁.world.execs.push { unit := u, context := c, nested := false, token := t } } }.world :=
    ⟨by simp, by simp, by simp⟩
  obtain ⟨⟨v', completed⟩, s₃, hr, hx⟩ := exec_bind_eq_ok hx
  cases completed with
  | false =>
    simp only [Bool.false_eq_true, if_false, exec_pure, Prod.mk.injEq] at hx
    rw [← hx.2]
    exact Exec.invokeAndRun_unfinished_slot hwk (hwo _) hk₂ ho₂ hr
  | true =>
    have hk₃ := Exec.invokeAndRun_keeps hh _ hwk wait hk₂ hr
    simp only [if_true, exec_bind, exec_outcome] at hx
    rcases hc : exec (UnitOfWork.tryCommit h u wait) s₃ with ⟨_ | b, s₄⟩ <;>
      simp only [hc, exec_bind, exec_throw, exec_pure, Prod.mk.injEq, reduceCtorEq, false_and] at hx
    rw [← hx.2]
    exact UnitOfWork.tryCommit_ok_slot hk₃.context hc

/-- From a ready unit, an attempt as the strategy runs it leaves the unit's context without a
transaction, whatever its outcome: a failed attempt is followed by the reset, which closes
the connection and leaves the unit ready again. -/
theorem once_settles {α : Type} {h : Hooks σ} {u c o : Nat} {a : AutoFlush} {work : Work σ α}
    (hh : Hooks.Keep (Prepared u c o a) h) (hwk : Work.Keeps (Prepared u c o a) work)
    (hwo : ∀ e, Work.Keeps (ScopeOpen e u) work) (options : Options) (wait : Wait) :
    Strategy.Tries (fun s : Sys σ => Clean u c o a s.world) (fun _ s => Settled u s.world)
      (once h u c options work wait) id := by
  intro s s' r hr hx
  unfold once at hx
  rw [exec_bind, exec_outcome] at hx
  rcases h₁ : exec (attempt h u c options work wait) s with ⟨q, s₁⟩
  have hk₁ : Prepared u c o a s₁.world := attempt_keeps hh u c options hwk wait hr.toPrepared h₁
  rw [h₁] at hx
  cases q with
  | ok v =>
    simp only [exec_pure, Prod.mk.injEq] at hx
    obtain ⟨rfl, rfl⟩ := hx
    exact ⟨_, rfl, Settled.of_prepared hk₁ (attempt_ok_slot hh hwk hwo hr.toPrepared h₁),
      fun _ he => by cases he⟩
  | error e =>
    obtain ⟨s₂, hreset, hready⟩ := resetAfterFailure_clean hk₁
    simp only [exec_bind, hreset, exec_pure, Prod.mk.injEq] at hx
    obtain ⟨rfl, rfl⟩ := hx
    exact ⟨_, rfl, Settled.of_clean hready, fun _ _ _ => hready⟩

/-- A root execution of a fresh unit, whatever it returns, leaves the unit's context without a
transaction. The work and the hooks leave the unit as the preparation set it, and the work
leaves the execution scopes of the unit open. -/
theorem root_settles {α : Type} (h : Hooks σ) (u : Nat) (options : Options) (work : Work σ α)
    (wait : Wait) {s s' : Sys σ} {r : Except Fault α}
    (hc : (s.world.unit u).context = none) (ho : (s.world.unit u).observer = none)
    (hl : (s.world.unit u).lock = .free) (hu : u < s.world.units.size)
    (hh : ∀ c o a, Hooks.Keep (Prepared u c o a) h) (hwk : ∀ c o a, Work.Keeps (Prepared u c o a) work)
    (hwo : ∀ e, Work.Keeps (ScopeOpen e u) work)
    (hx : exec (root h u options work wait) s = (r, s')) : Settled u s'.world := by
  have hs : Settled u s.world := fun c hc' => by
    rw [← World.unit_eq, hc] at hc'
    cases hc'
  rw [root_eq, exec_bind] at hx
  rcases hp : exec (UnitOfWork.prepareRoot u) s with ⟨_ | c, s₁⟩ <;> rw [hp] at hx
  · -- preparing failed: nothing began
    obtain ⟨-, rfl⟩ := Prod.mk.inj hx
    exact UnitOfWork.prepareRoot_settled u hs hp
  · -- the strategy's loop, from a ready unit, ends with the context settled
    obtain ⟨o, hr, -⟩ := UnitOfWork.prepareRoot_clean hc ho hl hu hp
    dsimp only at hx
    rw [exec_bind] at hx
    rcases hrun : exec ((Strategy.forExecution options).run wait.waiting (once h u c options work wait)
      (Strategy.forExecution options).initial) s₁ with ⟨q, s₂⟩
    obtain ⟨⟨x, counts⟩, rfl, hend, -⟩ := Strategy.run_tries (waiting_clean wait)
      (once_settles (hh _ _ _) (hwk _ _ _) hwo options wait) (fun _ _ hr' => Settled.of_clean hr')
      _ _ hr hrun
    rw [hrun] at hx
    simp only [exec_ofExcept, Prod.mk.injEq] at hx
    rw [← hx.2]
    exact hend

end Execution

/-! ## Transactions never leak -/

/-- Transactions never leak. In every state that a program making calls on the contexts of a
database reaches (failing calls, cancellations, injected faults and failed commits included),
the database keeps only active transactions, exactly those that the connections hold, each
held by one connection, so that closing every connection leaves the database with no
transaction. A root execution of a fresh unit, whatever it returns, leaves the unit's context
without a transaction. -/
theorem transactions_never_leak {h : Hooks σ} (hh : ∀ n, Hooks.Keep (Held n) h) {s : Sys σ}
    (hs : Reachable h s) :
    (∀ t tx, s.world.db.txns.find? t = some tx → tx.state = .active) ∧
    (∀ t, (s.world.db.txns.find? t).isSome ↔ ∃ c, s.world.slot c = some t) ∧
    (∀ c c' t, s.world.slot c = some t → s.world.slot c' = some t → c = c') ∧
    (∃ s', exec ((List.range s.world.contexts.size).forM Context.close) s = (.ok (), s') ∧
      s'.world.db.activeCount = 0) ∧
    ∀ {α : Type} (u : Nat) (options : Options) (work : Work σ α) (wait : Wait) (s₀ s' : Sys σ)
      (r : Except Fault α), (s₀.world.unit u).context = none → (s₀.world.unit u).observer = none →
      (s₀.world.unit u).lock = .free → u < s₀.world.units.size →
      (∀ c o a, Hooks.Keep (Prepared u c o a) h) → (∀ c o a, Work.Keeps (Prepared u c o a) work) →
      (∀ e, Work.Keeps (ScopeOpen e u) work) →
      exec (Execution.root h u options work wait) s₀ = (r, s') → Settled u s'.world := by
  have hi := hs.held hh
  refine ⟨fun t tx ht => (hi.wf.find?_some ht).2.1, hi.kept, hi.once, hi.closeAll, ?_⟩
  intro α u options work wait s₀ s' r hc ho hl hu hpk hwk hwo hx
  exact Execution.root_settles h u options work wait hc ho hl hu hpk hwk hwo hx

/-- A context is opened on the empty database and begins a transaction, with hooks that do
nothing: the transaction is kept because the context holds it, and closing every connection
ends it. -/
theorem begun_transaction_is_held :
    let s := (exec ((ContextCall.begin none).run Hooks.quiet 0 .blocking)
      (exec Context.create ({ world := {}, host := () } : Sys Unit)).2).2
    (∀ n, Hooks.Keep (Held n) (Hooks.quiet (σ := Unit))) ∧ Reachable Hooks.quiet s ∧
      (∀ t, (s.world.db.txns.find? t).isSome ↔ ∃ c, s.world.slot c = some t) ∧
      ∃ s', exec ((List.range s.world.contexts.size).forM Context.close) s = (.ok (), s') ∧
        s'.world.db.activeCount = 0 := by
  intro s
  have hh : ∀ n, Hooks.Keep (Held n) (Hooks.quiet (σ := Unit)) := fun _ => Hooks.quiet_keep _
  have hs : Reachable Hooks.quiet s :=
    .call 0 .blocking (.begin none) (.create (.empty ()) rfl) (by decide) rfl
  obtain ⟨-, hkept, -, hclose, -⟩ := transactions_never_leak hh hs
  exact ⟨hh, hs, hkept, hclose⟩

end ScopedWork

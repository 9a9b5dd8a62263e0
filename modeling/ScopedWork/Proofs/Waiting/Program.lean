import ScopedWork.Proofs.Waiting.Execution

/-!
# Work run blocking and run waiting

The work of a scoped execution is here a routine of commands on its context (transaction
control included), aborts and nested executions (`Routine`). Run once with every operation blocking and once with every operation
waiting under a token that is never cancelled, from the same state, the execution returns the
same, and leaves the same record of the work (one mark for each invocation and for each
operation), the same host state the hooks keep, the same database with the same history of
transactions, and the chain as it found it.

The routine is followed command by command (`Routine.run_sim`); each nested execution is a
scoped execution of its own, alike by `Execution.execute_sim`.
-/

namespace ScopedWork

open Act Execution Wait

namespace Routine

/-- The routine with every command and every nested execution waiting as `wait` says. -/
def waitingOn (wait : Wait) : Routine → Routine
  | done r => done r
  | fail f => fail f
  | cmd x _ next => cmd x wait fun r => (next r).waitingOn wait
  | abort next => abort (next.waitingOn wait)
  | nest body _ next => nest (body.waitingOn wait) wait fun r => (next r).waitingOn wait

variable {t : Nat} {h : Hooks Journal} (hh : Hooks.Blind h)
include hh

/-- A routine runs alike blocking and waiting, in any execution scope: one case per
construct, a nested execution by the execution's own simulation. -/
theorem run_sim (p : Nat) : ∀ (prog : Routine) (e : Nat),
    Sim t ((prog.waitingOn .blocking).run h p e) ((prog.waitingOn (.async t)).run h p e)
  | .done r, _ => .pure r
  | .fail f, _ => .throw f
  | .cmd x _ next, e => by
    simp only [waitingOn, run]
    exact .read (fun _ => rfl) fun _ => .read (fun _ => by simp only [World.observed_exec, ExecState.untokened])
      fun _ => .bind (.outcome (Cmd.run_sim hh _ x)) fun r => .read (fun _ => rfl) fun _ =>
        .bind (.of_blind (.modifyHost _)) fun _ => run_sim p (next r) e
  | .abort next, e => by
    simp only [waitingOn, run]
    exact .bind (.of_blind (Exec.abort_blind e)) fun _ => run_sim p next e
  | .nest body _ next, e => by
    simp only [waitingOn, run]
    exact .bind (.outcome (Execution.execute_sim hh p .joinExisting fun e' _ _ ha =>
      ⟨_, _, _, _, rfl, rfl, run_sim p body e', ha, .refl _, .refl _, rfl⟩)) fun r => run_sim p (next r) e

/-- The work of a root execution records its invocation and hands back the routine, alike
blocking and waiting. -/
theorem rootWork_sim (p : Nat) (prog : Routine) :
    WorkSim t (rootWork h p (prog.waitingOn .blocking)) (rootWork h p (prog.waitingOn (.async t))) := by
  have hx : ∀ (prog : Routine) (e : Nat) (s : Sys Journal), exec (rootWork h p prog e) s =
      (.ok (prog.run h p e), { s with host := s.host ++ [.entered s.world.db.history] }) := by
    intro prog e s
    simp [rootWork, exec_bind, exec_world, exec_modifyHost]
  intro e s₁ s₂ ha
  refine ⟨_, _, _, _, hx _ e s₁, hx _ e s₂, run_sim hh p prog e, ⟨?_, ha.uncancelled, ha.idle, ha.head⟩,
    .refl _, .refl _, rfl⟩
  exact Sys.observed_eq_iff.mpr ⟨by rw [ha.host, ha.db], ha.world⟩

end Routine

/-- A scoped execution of a routine, run once with every command blocking and once with
every command waiting under a token that is not cancelled, from the same state with no task
running and a live head on the chain: both return the same, record the same invocations and
operations, leave the same host state and the same database (its tables and its history of
transactions), are at the same point but for tokens and flows, and leave the chain they
started from as they found it. -/
theorem Execution.waiting_agrees_with_blocking {h : Hooks Journal} (hh : Hooks.Blind h) (p : Nat)
    (option : ScopeOption) (prog : Routine) (t : Nat) {s s₁ s₂ : Sys Journal} {r₁ r₂ : Except Fault Reply}
    (hcancel : s.world.cancelled t = false) (hidle : s.world.spawned = []) (hhead : s.world.HeadLive)
    (hx₁ : exec (execute h p option (Routine.rootWork h p (prog.waitingOn .blocking)) .blocking) s = (r₁, s₁))
    (hx₂ : exec (execute h p option (Routine.rootWork h p (prog.waitingOn (.async t))) (.async t)) s = (r₂, s₂)) :
    r₁ = r₂ ∧ s₁.host = s₂.host ∧ s₁.world.db = s₂.world.db ∧ s₁.world.observed = s₂.world.observed ∧
      Stays s.world s₁.world ∧ Stays s.world s₂.world := by
  have hrun := Execution.execute_sim hh p option (Routine.rootWork_sim hh p prog) ⟨rfl, hcancel, hidle, hhead⟩
  unfold Alike at hrun
  rw [hx₁, hx₂] at hrun
  obtain ⟨hr, hq, hs₁, hs₂⟩ := hrun
  exact ⟨hr, hq.host, hq.db, hq.world, hs₁, hs₂⟩

/-- A routine that begins a transaction, adds a row, saves and commits. -/
def Routine.ownTransaction : Routine :=
  .cmd (.begin none) .blocking fun _ => .cmd (.op (.add ("items", 1) (.integer 1))) .blocking fun _ =>
    .cmd (.op .save) .blocking fun _ => .cmd .commit .blocking fun _ => .done .unit

/-- A save inside a transaction the work begins and commits itself, blocking and waiting, from
an empty world. -/
theorem Execution.waiting_agrees_with_blocking_on_own_transaction :
    ∃ r₁ s₁ r₂ s₂,
      exec (execute Hooks.quiet 0 .joinExisting
        (Routine.rootWork Hooks.quiet 0 (Routine.ownTransaction.waitingOn .blocking)) .blocking) ⟨{}, []⟩ = (r₁, s₁) ∧
      exec (execute Hooks.quiet 0 .joinExisting
        (Routine.rootWork Hooks.quiet 0 (Routine.ownTransaction.waitingOn (.async 0))) (.async 0)) ⟨{}, []⟩ = (r₂, s₂) ∧
      (r₁ = r₂ ∧ s₁.host = s₂.host ∧ s₁.world.db = s₂.world.db ∧ s₁.world.observed = s₂.world.observed ∧
        Stays ({} : World) s₁.world ∧ Stays ({} : World) s₂.world) :=
  ⟨_, _, _, _, (Prod.eta _).symm, (Prod.eta _).symm,
    Execution.waiting_agrees_with_blocking Hooks.quiet_blind 0 .joinExisting _ 0 rfl rfl
      (fun _ hr => by simp [World.chain] at hr) (Prod.eta _).symm (Prod.eta _).symm⟩

end ScopedWork

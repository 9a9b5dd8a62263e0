import ScopedWork.Proofs.Attempt.Fresh
import ScopedWork.Proofs.Root.Scopes

/-!
# A failed commit is reported once and ends the execution

An attempt whose scope completed commits the unit's transaction. When the commit fails, the
fault passes twice through a wrapper that marks it as an uncertain outcome: once through the
interceptors of the context (the observer wraps it if it avoids commit retries), and once
through the execution (`commitFault`). A fault already wrapped is not wrapped again, so a
fault of the store reaches the strategy as `commitFailed e`, with `e` the database's own
fault, or as `e` itself when neither the execution nor an observer avoids retries; a commit
cancelled before it reached the database reaches it as `cancelled`.

Avoiding commit retries, the execution's fault is one that no strategy retries, whatever
the commit failed with: the failed attempt is the last one, even when the database lost the
connection (a transient fault) or found a conflict.
-/

namespace ScopedWork

open Act

variable {σ : Type}

/-! ## What the store fails with -/

namespace Fault

/-- The faults the store fails with: conflicts, constraint violations, refusals of the
transaction manager and lost connections. -/
def isStore : Fault → Bool
  | .conflict _ | .constraint _ | .execution _ | .transient _ => true
  | _ => false

theorem isCommitFailure_of_isStore {e : Fault} (h : e.isStore) : e.isCommitFailure = false := by
  cases e <;> simp_all [isStore, Fault.isCommitFailure]

theorem isCancelled_of_isStore {e : Fault} (h : e.isStore) : e.isCancelled = false := by
  cases e <;> simp_all [isStore, Fault.isCancelled]

end Fault

namespace Change

theorem check_error {t : String} {i : Int} {row : Row} {v : Option Nat} {e : Fault}
    (h : check t i row v = .error e) : e.isStore := by
  unfold check at h
  split at h
  · split at h
    · cases h
    · cases h
      rfl
  · cases h

/-- A change fails on a taken key, on a row that vanished, or on a row at another version. -/
theorem apply_error {c : Change} {ts : Tables} {e : Fault} (h : c.apply ts = .error e) : e.isStore := by
  cases c with
  | insert t i v =>
    simp only [apply] at h
    split at h
    · cases h
      rfl
    · cases h
  | update t i v ver =>
    simp only [apply] at h
    split at h
    · split at h
      · cases h
        rfl
      · cases h
    · cases hc : check t i _ ver with
      | error e' =>
        rw [hc] at h
        cases h
        exact check_error hc
      | ok _ =>
        rw [hc] at h
        cases h
  | delete t i ver =>
    simp only [apply] at h
    split at h
    · split at h
      · cases h
        rfl
      · cases h
    · cases hc : check t i _ ver with
      | error e' =>
        rw [hc] at h
        cases h
        exact check_error hc
      | ok _ =>
        rw [hc] at h
        cases h

theorem applyAll_error : ∀ {cs : List Change} {ts : Tables} {e : Fault}, applyAll cs ts = .error e → e.isStore
  | [], _, _, h => by cases h
  | c :: cs, ts, e, h => by
    simp only [applyAll] at h
    cases hc : c.apply ts with
    | error e' =>
      rw [hc] at h
      cases h
      exact apply_error hc
    | ok p =>
      rw [hc] at h
      cases hr : applyAll cs p.1 with
      | error e' =>
        simp only [bind, Except.bind, hr] at h
        cases h
        exact applyAll_error hr
      | ok q =>
        simp only [bind, Except.bind, hr] at h
        cases h

end Change

namespace TxnManager

variable {m : TxnManager} {id : Nat} {e : Fault}

theorem get_error (h : m.get id = .error e) : e.isStore := by
  unfold get at h
  split at h
  · cases h
  · cases h
    rfl

theorem changes_error (h : m.changes id = .error e) : e.isStore := by
  unfold changes at h
  cases hg : m.get id with
  | error e' =>
    rw [hg] at h
    cases h
    exact get_error hg
  | ok t =>
    rw [hg] at h
    cases h

/-- Ending a transaction fails on an unknown id or on a transaction already ended. -/
theorem end_error {finish : Transaction → Except Fault Transaction}
    (hfinish : ∀ t e, finish t = .error e → e.isStore)
    (h : (do let t ← m.get id; let t ← finish t; return (m.drop id, t)) = Except.error e) :
    e.isStore := by
  cases hg : m.get id with
  | error e' =>
    simp only [hg, bind, Except.bind] at h
    cases h
    exact get_error hg
  | ok t =>
    cases hf : finish t with
    | error e' =>
      simp only [hg, hf, bind, Except.bind] at h
      cases h
      exact hfinish t _ hf
    | ok t' =>
      simp only [hg, hf, bind, Except.bind, pure, Except.pure] at h
      cases h

theorem commit_error (h : m.commit id = .error e) : e.isStore :=
  end_error (fun t e h => by
    unfold Transaction.commit at h
    split at h
    · cases h
    · cases h
      rfl) h

theorem rollback_error (h : m.rollback id = .error e) : e.isStore :=
  end_error (fun t e h => by
    unfold Transaction.rollback at h
    split at h
    · cases h
    · cases h
      rfl) h

end TxnManager

namespace Database

/-- Every failure of the step, from any database, is a store fault. -/
def FailsInStore {α : Type} (x : Step α) : Prop :=
  ∀ db e db', (x.run).run db = (.error e, db') → e.isStore

namespace FailsInStore

variable {α β : Type}

theorem pure (a : α) : FailsInStore (Pure.pure a : Step α) := by
  intro db e db' h
  cases h

theorem bind {x : Step α} {f : α → Step β} (hx : FailsInStore x) (hf : ∀ a, FailsInStore (f a)) :
    FailsInStore (x >>= f) := by
  intro db e db' h
  rcases hr : (x.run).run db with ⟨_ | a, db₁⟩
  · rw [bind_run_error hr] at h
    cases h
    exact hx _ _ _ hr
  · rw [bind_run_ok hr] at h
    exact hf a _ _ _ h

theorem get : FailsInStore (MonadState.get : Step Database) := by
  intro db e db' h
  cases h

theorem set (db₁ : Database) : FailsInStore (MonadStateOf.set db₁ : Step PUnit) := by
  intro db e db' h
  cases h

theorem lift {r : Except Fault α} (hr : ∀ e, r = .error e → e.isStore) : FailsInStore (Database.lift r) := by
  intro db e db' h
  rw [lift_run] at h
  cases h
  exact hr _ rfl

theorem throw {e : Fault} (he : e.isStore) : FailsInStore (MonadExcept.throw e : Step α) := by
  intro db e' db' h
  rw [throw_run] at h
  cases h
  exact he

theorem ite {c : Prop} [Decidable c] {x y : Step α} (hx : FailsInStore x) (hy : FailsInStore y) :
    FailsInStore (if c then x else y) := by
  split
  · exact hx
  · exact hy

end FailsInStore

theorem rollback_failsInStore (id : Nat) : FailsInStore (rollback id) :=
  .bind .get fun _ => .bind (.lift fun _ h => TxnManager.rollback_error h) fun _ => .set _

theorem commit_failsInStore (id : Nat) : FailsInStore (commit id) := by
  unfold commit
  refine .bind .get fun db => .bind (.set _) fun _ => ?_
  dsimp only
  -- an injected failure before the commit rolls back; the rest runs after either branch
  refine .ite (.bind (rollback_failsInStore id) fun _ => .bind (.throw rfl) fun _ => ?_) ?_ <;>
  · refine .bind .get fun db' => .bind (.lift fun _ h => TxnManager.changes_error h) fun cs => ?_
    split
    · exact .bind (rollback_failsInStore id) fun _ => .throw (Change.applyAll_error ‹_›)
    · refine .bind (.lift fun _ h => TxnManager.commit_error h) fun p => ?_
      exact .bind (.set _) fun _ => .ite (.throw rfl) (.pure _)

end Database

/-! ## The interceptors' say

The context hands a failed commit to its interceptors in turn. An observer wraps it as an
uncertain outcome if it avoids commit retries and the fault is not wrapped already; the host's
interceptors are taken to hand it on as it is. -/

/-- Whether an observer among the interceptors reports a failed commit as an uncertain
outcome. -/
def avoidsRetries (w : World) (is : List Interceptor) : Bool :=
  is.any fun
    | .observer o => (w.observer o).avoidCommitRetries
    | .host _ => false

/-- The fault of a failed commit after the interceptors had their say: wrapped once as a
commit failure if an observer avoids retries, as it is otherwise. -/
def commitReport (avoid : Bool) (e : Fault) : Fault :=
  if avoid && !e.isCommitFailure then .commitFailed e else e

theorem ObserverState.failed_commit (ob : ObserverState) (e : Fault) :
    ob.failed .commit e = commitReport ob.avoidCommitRetries e := by
  simp [ObserverState.failed, commitReport]

/-- A report already wrapped is not wrapped again. -/
theorem commitReport_commitReport (a b : Bool) (e : Fault) :
    commitReport a (commitReport b e) = commitReport (b || a) e := by
  have hcf : (Fault.commitFailed e).isCommitFailure = true := rfl
  cases a <;> cases b <;> cases hc : e.isCommitFailure <;> simp [commitReport, hc, hcf]

/-- One interceptor's say on a failed transaction operation, as `failedThrough` asks it. -/
def failedStep (h : Hooks σ) (a : TxnAction) : Fault → Interceptor → Run σ Fault := fun e i =>
  match i with
  | .observer o => return ((← Run.world).observer o).failed a e
  | .host k => h.failed k a e

theorem Context.failedThrough_eq (h : Hooks σ) (c : Nat) (a : TxnAction) (e : Fault) :
    Context.failedThrough h c a e =
      (do Act.ofRun ((← Context.interceptorsNow c).foldlM (failedStep h a) e)) := rfl

/-- With host interceptors that hand a failure on as it is, the interceptors wrap a failed
commit at most once, and change nothing. -/
theorem foldlM_failedStep_commit {h : Hooks σ} (hpass : ∀ k a e, h.failed k a e = pure e)
    (s : Sys σ) : ∀ (is : List Interceptor) (e : Fault),
    (is.foldlM (failedStep h .commit) e).run s = (commitReport (avoidsRetries s.world is) e, s)
  | [], e => by
    simp [commitReport, avoidsRetries]
    rfl
  | i :: is, e => by
    rw [List.foldlM_cons, StateT.run_bind]
    cases i with
    | observer o =>
      have hstep : (failedStep h .commit e (.observer o)).run s =
          (commitReport (s.world.observer o).avoidCommitRetries e, s) := by
        simp [failedStep, ObserverState.failed_commit]
        rfl
      rw [hstep]
      show StateT.run (List.foldlM _ (commitReport (s.world.observer o).avoidCommitRetries e) is) s = _
      rw [foldlM_failedStep_commit hpass s is, commitReport_commitReport]
      rfl
    | host k =>
      have hstep : (failedStep h .commit e (.host k)).run s = (e, s) := by
        simp [failedStep, hpass]
        rfl
      rw [hstep]
      show StateT.run (List.foldlM _ e is) s = _
      rw [foldlM_failedStep_commit hpass s is]
      simp [avoidsRetries]

theorem Context.failedThrough_commit_exec {h : Hooks σ} (hpass : ∀ k a e, h.failed k a e = pure e)
    (c : Nat) (e : Fault) (s : Sys σ) :
    exec (Context.failedThrough h c .commit e) s =
      (.ok (commitReport (avoidsRetries s.world (s.world.context c).interceptors) e), s) := by
  rw [Context.failedThrough_eq]
  simp only [Context.interceptorsNow, exec_bind, exec_world, exec_pure, exec_ofRun,
    foldlM_failedStep_commit hpass]

theorem avoidsRetries_of_observers {w w' : World} (h : w'.observers = w.observers)
    (is : List Interceptor) : avoidsRetries w' is = avoidsRetries w is := by
  simp only [avoidsRetries, World.observer_eq, h]

/-! ## How a commit fails -/

/-- A commit fails either at the round trip, cancelled before the database is reached, or in
the database, with a fault that the interceptors then report. -/
theorem Context.commit_error {h : Hooks σ} (hpass : ∀ k a e, h.failed k a e = pure e) {c t : Nat}
    {wait : Wait} {s s' : Sys σ} {f : Fault} (ht : (s.world.contexts[c]?.getD default).txn = some t)
    (hx : exec (Context.commit h c wait) s = (.error f, s')) :
    (f = .cancelled ∧ s'.world.db = s.world.db) ∨
      ∃ e db, ((Database.commit t).run).run s.world.db = (.error e, db) ∧ e.isStore ∧
        f = commitReport (avoidsRetries s.world (s.world.contexts[c]?.getD default).interceptors) e ∧
        s'.world.db = db := by
  unfold Context.commit at hx
  rw [exec_bind] at hx
  rcases hr : exec wait.roundTrip s with ⟨q, s₁⟩
  obtain ⟨hq, hs₁⟩ := Wait.roundTrip_spec hr
  rw [hr] at hx
  rcases hq with rfl | rfl
  · -- the transaction is taken out of the slot and committed in the database
    have ht₁ : (s₁.world.contexts[c]?.getD default).txn = some t := by rw [hs₁]; exact ht
    simp only [exec_bind, Context.takeTxn_exec ht₁, exec_outcome, exec_database] at hx
    have hdb₁ : s₁.world.db = s.world.db := by rw [hs₁]
    rcases hdb : ((Database.commit t).run).run s₁.world.db with ⟨e | _, db⟩ <;> simp only [hdb] at hx
    · -- the database refused: the interceptors have their say, and nothing else changes
      rw [exec_bind, Context.failedThrough_commit_exec hpass] at hx
      simp only [exec_throw, Prod.mk.injEq, Except.error.injEq] at hx
      obtain ⟨rfl, rfl⟩ := hx
      refine .inr ⟨e, db, hdb₁ ▸ hdb, Database.commit_failsInStore t _ _ _ hdb, ?_, rfl⟩
      rw [avoidsRetries_of_observers (w := s.world) (by rw [hs₁]), World.context_eq,
        World.getD_modify_view _ _ _ _ _ ContextState.interceptors rfl, hs₁]
    · simp only [exec_pure, Prod.mk.injEq, reduceCtorEq, false_and] at hx
  · simp only [Prod.mk.injEq, Except.error.injEq] at hx
    obtain ⟨rfl, rfl⟩ := hx
    exact .inl ⟨rfl, by rw [hs₁]⟩

/-- The unit commits under its lock. With its context in place and the lock free, a failed
commit is one of the context's: cancelled at the round trip, or refused by the database. -/
theorem UnitOfWork.tryCommit_error {h : Hooks σ} (hpass : ∀ k a e, h.failed k a e = pure e)
    {u c : Nat} {wait : Wait} {s s' : Sys σ} {f : Fault}
    (hctx : (s.world.units[u]?.getD default).context = some c)
    (hfree : (s.world.units[u]?.getD default).lock = .free)
    (hx : exec (UnitOfWork.tryCommit h u wait) s = (.error f, s')) :
    (f = .cancelled ∧ s'.world.db = s.world.db) ∨
      ∃ t e db, (s.world.contexts[c]?.getD default).txn = some t ∧
        ((Database.commit t).run).run s.world.db = (.error e, db) ∧ e.isStore ∧
        f = commitReport (avoidsRetries s.world (s.world.contexts[c]?.getD default).interceptors) e ∧
        s'.world.db = db := by
  simp only [UnitOfWork.tryCommit, UnitOfWork.tryFinish, exec_bind, UnitOfWork.context_exec hctx,
    Context.hasTxn, exec_world, exec_pure, World.context_eq] at hx
  cases hslot : (s.world.contexts[c]?.getD default).txn with
  | none =>
    simp only [hslot, Option.isSome_none, Bool.not_false, if_true, exec_pure, Prod.mk.injEq,
      reduceCtorEq, false_and] at hx
  | some t =>
    simp only [hslot, Option.isSome_some, Bool.not_true, Bool.false_eq_true, if_false,
      UnitOfWork.locked_exec_free _ hfree, exec_bind, exec_world, exec_pure, Sys.withLock_contexts] at hx
    rcases hc : exec (Context.commit h c wait) (s.withLock u .held) with ⟨_ | _, s₁⟩ <;>
      simp only [hc, Prod.mk.injEq, Except.error.injEq, reduceCtorEq, false_and] at hx
    obtain ⟨rfl, rfl⟩ := hx
    rcases Context.commit_error hpass (by simpa using hslot) hc with ⟨rfl, hdb⟩ | ⟨e, db, hdb, he, rfl, hdb₁⟩
    · exact .inl ⟨rfl, by simpa using hdb⟩
    · refine .inr ⟨t, e, db, rfl, by simpa using hdb, he, ?_, by simpa using hdb₁⟩
      simp only [Sys.withLock_contexts, avoidsRetries_of_observers (Sys.withLock_observers s u _)]

/-! ## The fault the execution reports -/

/-- A store fault of the commit is wrapped once, if the execution or an observer avoids
retries, and reported as it is otherwise. -/
theorem commitFault_commitReport (options : Options) (b : Bool) {e : Fault} (he : e.isStore) :
    commitFault options (commitReport b e) =
      if options.avoidCommitRetries || b then .commitFailed e else e := by
  have hcf : (Fault.commitFailed e).isCommitFailure = true := rfl
  have hs₁ := Fault.isCommitFailure_of_isStore he
  have hs₂ := Fault.isCancelled_of_isStore he
  cases b <;> cases hb : options.avoidCommitRetries <;> simp [commitFault, commitReport, hb, hcf, hs₁, hs₂]

theorem commitFault_cancelled (options : Options) : commitFault options .cancelled = .cancelled := by
  simp [commitFault, Fault.isCancelled]

/-- Avoiding commit retries, a failed commit is reported as a fault that no strategy retries,
whatever the commit failed with. -/
theorem commitFault_final {options : Options} (h : options.avoidCommitRetries = true) (err : Fault) :
    (commitFault options err).isTransient = false ∧ (commitFault options err).isConflict = false := by
  unfold commitFault
  rw [h, Bool.true_and]
  split
  · exact ⟨rfl, rfl⟩
  · -- left as it is only when wrapped already or cancelled
    cases err <;> simp_all [Fault.isCommitFailure, Fault.isCancelled, Fault.isTransient, Fault.isConflict]

/-! ## The attempt that fails on commit -/

namespace Execution

/-- The reset after a failed attempt never fails. -/
theorem resetAfterFailure_ok (u c : Nat) (s : Sys σ) :
    (exec (UnitOfWork.resetAfterFailure u c) s).1 = .ok () := by
  simp only [UnitOfWork.resetAfterFailure, exec_bind, Context.clearTracked_exec, exec_outcome]
  rfl

/-- An attempt whose scope completed and whose commit failed with `err` gives the strategy the
execution's fault for it, after the reset. -/
theorem once_of_commit_error {α : Type} {h : Hooks σ} {u c : Nat} {options : Options}
    {work : Work σ α} {wait : Wait} {s s₁ s₂ : Sys σ} {v : α} {err : Fault}
    (hscope : exec (attemptScope h u c work wait) s = (.ok (v, true), s₁))
    (hcommit : exec (UnitOfWork.tryCommit h u wait) s₁ = (.error err, s₂)) :
    exec (once h u c options work wait) s =
      (.ok (.error (commitFault options err)), (exec (UnitOfWork.resetAfterFailure u c) s₂).2) := by
  have hok := resetAfterFailure_ok u c s₂
  rcases hreset : exec (UnitOfWork.resetAfterFailure u c) s₂ with ⟨q, s₃⟩
  rw [hreset] at hok
  subst hok
  unfold once
  rw [attempt_eq_scoped]
  simp only [exec_bind, exec_outcome, hscope, if_true, hcommit, exec_throw, hreset, exec_pure]

/-! ## A failed commit ends the execution -/

/-- A failed commit at the end of an attempt, under any strategy and either way of waiting,
with host interceptors that hand failures on as they are. The attempt gives the strategy the
execution's fault for it; when the execution avoids commit retries the run ends there, with
that fault and no further attempt. With its unit in place the commit failed either at the
round trip, reported as `cancelled`, or in the database with a store fault `e`, reported as
`commitFailed e` (wrapped once, although both the observer and the execution wrap) when the
execution or an observer of the context avoids retries, and as `e` itself otherwise. -/
theorem failed_commit_wrapped_once_and_final {α : Type} {h : Hooks σ}
    (hpass : ∀ k a e, h.failed k a e = pure e) {u c : Nat} {options : Options} {work : Work σ α}
    {wait : Wait} {s s₀ s₁ s₂ s₃ : Sys σ} {v : α} {err : Fault}
    (hp : exec (UnitOfWork.prepareRoot u) s = (.ok c, s₀))
    (hreach : Strategy.Reaches wait.waiting (once h u c options work wait) (Strategy.forExecution options)
      (Strategy.forExecution options).initial s₀ s₁)
    (hscope : exec (attemptScope h u c work wait) s₁ = (.ok (v, true), s₂))
    (hcommit : exec (UnitOfWork.tryCommit h u wait) s₂ = (.error err, s₃)) :
    exec (once h u c options work wait) s₁ =
        (.ok (.error (commitFault options err)), (exec (UnitOfWork.resetAfterFailure u c) s₃).2) ∧
      (options.avoidCommitRetries = true →
        exec (root h u options work wait) s =
          (.error (commitFault options err), (exec (UnitOfWork.resetAfterFailure u c) s₃).2)) ∧
      ((s₂.world.units[u]?.getD default).context = some c →
        (s₂.world.units[u]?.getD default).lock = .free →
        (err = .cancelled ∧ commitFault options err = .cancelled ∧ s₃.world.db = s₂.world.db) ∨
          ∃ t e db, (s₂.world.contexts[c]?.getD default).txn = some t ∧
            ((Database.commit t).run).run s₂.world.db = (.error e, db) ∧ s₃.world.db = db ∧
            commitFault options err =
              if options.avoidCommitRetries ||
                  avoidsRetries s₂.world (s₂.world.contexts[c]?.getD default).interceptors
              then .commitFailed e else e) := by
  have honce : exec (once h u c options work wait) s₁ = _ := once_of_commit_error hscope hcommit
  refine ⟨honce, fun havoid => ?_, fun hctx hfree => ?_⟩
  · -- the strategy meets a fault it does not retry: the run ends with it
    obtain ⟨ht, hc⟩ := commitFault_final havoid err
    obtain ⟨counts, hrun⟩ := Strategy.Reaches.final ht hc hreach honce
    rw [root_eq]
    simp only [exec_bind, hp, hrun, exec_ofExcept]
  · rcases UnitOfWork.tryCommit_error hpass hctx hfree hcommit with
      ⟨rfl, hdb⟩ | ⟨t, e, db, hslot, hdb, he, rfl, hdb₃⟩
    · exact .inl ⟨rfl, commitFault_cancelled options, hdb⟩
    · exact .inr ⟨t, e, db, hslot, hdb, hdb₃, commitFault_commitReport options _ he⟩

/-- A system with one fresh unit of work, whose database loses the connection before it
applies the next commit. -/
def commitLost : Sys Unit :=
  { world := { units := #[{ factory := 0, options := {} }], db := { commitFault := some .beforeApply } },
    host := () }

/-- A work that only starts the transaction of unit `0`. -/
def startsTransaction : Work Unit Unit := fun _ => do
  let _ ← UnitOfWork.tryStart Hooks.quiet 0 .blocking
  return pure ()

/-- A run read off its outcome: the state it leaves is the run's own. -/
theorem exec_eq_of_fst {α : Type} {x : Act σ α} {s : Sys σ} {r : Except Fault α} (h : (exec x s).1 = r) :
    exec x s = (r, (exec x s).2) := by
  rw [← h]

/-- The commit of the first attempt fails with a transient fault, which both the transient
policy and the conflict decorator would retry had the work failed with it: the execution ends
with it wrapped once. -/
theorem lost_commit_not_retried :
    (exec (root Hooks.quiet 0 { transientRetry := some { maxRetries := 1 }, retryOnConflict := true }
        startsTransaction .blocking) commitLost).1 =
      .error (.commitFailed (.transient "The connection was lost before the commit completed")) := by
  have h := (@failed_commit_wrapped_once_and_final Unit Unit Hooks.quiet (fun _ _ _ => rfl) 0 0
    { transientRetry := some { maxRetries := 1 }, retryOnConflict := true } startsTransaction .blocking
    commitLost _ _ _ _ () (.commitFailed (.transient "The connection was lost before the commit completed"))
    (exec_eq_of_fst (by rfl)) (.now (.now rfl)) (exec_eq_of_fst (by rfl)) (exec_eq_of_fst (by rfl))).2.1 rfl
  rw [h]
  rfl

end Execution

end ScopedWork

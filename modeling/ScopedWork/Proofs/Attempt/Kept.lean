import ScopedWork.Execution
import ScopedWork.Proofs.Keeps
import ScopedWork.Proofs.Root.Steps

/-!
# What an attempt keeps of its unit of work

The root execution of unit of work `u` prepares it once: the unit gets its context `c`, its
observer `o` and scoped execution, and the observer lets queries flush as its flush mode
`a` asks. The reset after a failed attempt restores everything else an attempt may leave
behind, but not these: `Prepared u c o a` says they are as the preparation left them.

Every operation the library runs around the work of an attempt keeps `Prepared`: creating the
execution scope and its token, running the work in it, disposing it (rolling back and
invalidating after an abort), and committing. Where those operations reach into other units
of work (a scope's unit is read from the scope), they change only units that differ from
`u`; where they call the host program's hooks, the hooks are assumed to keep `Prepared`.
-/

namespace ScopedWork

open Act

variable {σ : Type}

namespace Execution

/-- Unit `u` keeps context `c`, observer `o` and scoped execution, and the observer keeps
flush mode `a` with flushing enabled unless the mode is off. -/
structure Prepared (u c o : Nat) (a : AutoFlush) (w : World) : Prop where
  unit : (w.units[u]?.getD default).shape = (some c, some o, .scopedExecution)
  flushing : ((w.observers[o]?.getD default).autoFlush, (w.observers[o]?.getD default).flushEnabled) =
    (a, a != .off)
  unit_lt : u < w.units.size
  observer_lt : o < w.observers.size

namespace Prepared

variable {u c o : Nat} {a : AutoFlush} {w : World}

theorem context (hk : Prepared u c o a w) : (w.units[u]?.getD default).context = some c :=
  congrArg (·.1) hk.unit

theorem observer (hk : Prepared u c o a w) : (w.units[u]?.getD default).observer = some o :=
  congrArg (·.2.1) hk.unit

/-- A world with the same units and observers keeps what the world kept. -/
theorem of_eq {w' : World} (hk : Prepared u c o a w) (hu : w'.units = w.units)
    (ho : w'.observers = w.observers) : Prepared u c o a w' := by
  obtain ⟨h₁, h₂, h₃, h₄⟩ := hk
  exact ⟨hu ▸ h₁, ho ▸ h₂, hu ▸ h₃, ho ▸ h₄⟩

/-- Changing a unit keeps `Prepared` if the change keeps the shape of `u`. -/
theorem setUnit (hk : Prepared u c o a w) (u' : Nat) (f : UnitState → UnitState)
    (hf : u' = u → (f (w.units[u']?.getD default)).shape = (w.units[u']?.getD default).shape) :
    Prepared u c o a (w.setUnit u' (f (w.unit u'))) := by
  refine ⟨?_, hk.flushing, by simpa using hk.unit_lt, hk.observer_lt⟩
  by_cases hu : u' = u
  · subst hu
    simp only [World.setUnit_eq, World.unit_eq]
    rw [World.getD_modify_view _ _ _ (fun _ => f (w.units[u']?.getD default)) _ UnitState.shape (hf rfl)]
    exact hk.unit
  · simp [Array.getElem?_modify, hu, hk.unit]

/-- Changing an observer keeps `Prepared` if the change keeps the flush mode and setting of `o`. -/
theorem setObserver (hk : Prepared u c o a w) (o' : Nat) (f : ObserverState → ObserverState)
    (hf : ((f (w.observers[o']?.getD default)).autoFlush,
      (f (w.observers[o']?.getD default)).flushEnabled) =
      ((w.observers[o']?.getD default).autoFlush, (w.observers[o']?.getD default).flushEnabled)) :
    Prepared u c o a (w.setObserver o' (f (w.observer o'))) := by
  refine ⟨hk.unit, ?_, hk.unit_lt, by simpa using hk.observer_lt⟩
  simp only [World.setObserver_eq, World.observer_eq]
  rw [World.getD_modify_view _ _ _ (fun _ => f (w.observers[o']?.getD default)) _
    (fun x => (x.autoFlush, x.flushEnabled)) hf]
  exact hk.flushing

/-- A new observer goes at the end, past `o`. -/
theorem pushObserver (hk : Prepared u c o a w) (ob : ObserverState) :
    Prepared u c o a { w with observers := w.observers.push ob } := by
  refine ⟨hk.unit, ?_, hk.unit_lt, by simp only [Array.size_push]; exact Nat.lt_succ_of_lt hk.observer_lt⟩
  simpa [Nat.ne_of_lt hk.observer_lt] using hk.flushing

end Prepared

end Execution

open Execution

/-- The work keeps `I`: when it is invoked, and in what it hands back to run from there. -/
def Work.Keeps {α : Type} (I : World → Prop) (work : Work σ α) : Prop :=
  ∀ e, Act.Keeps I (work e) ∧
    ∀ ⦃s s' : Sys σ⦄ ⦃p : Act σ α⦄, I s.world → exec (work e) s = (.ok p, s') → Act.Keeps I p

/-! ### The library's operations around the work

Around the work of an attempt the library creates the execution scope and its token, runs the
work in it, disposes it and commits. What it changes there is of few kinds: things no
invariant of an attempt reads (the execution scopes, the contexts, the tokens, the factories,
the database), the lock of a unit, the settings of an observer other than its flushing, and a
unit's context or observer where it has none yet. An invariant kept by changes of the first
kinds is `AroundWork`; one also kept where a unit's context and observer are looked up is
`AroundAttempt`, and every operation around the work keeps it. -/

/-- An invariant kept by the library's changes around the work: changes that leave the units,
the observers and the providers alone, taking or freeing a unit's lock, and changes of an
observer that keep its flushing. -/
class AroundWork (I : World → Prop) : Prop where
  frame : ∀ ⦃w w' : World⦄, w'.units = w.units → w'.observers = w.observers →
    w'.providers = w.providers → I w → I w'
  lock : ∀ (w : World) (u : Nat) (l : LockState), I w → I (w.setUnit u { w.unit u with lock := l })
  flush : ∀ (w : World) (o : Nat) (f : ObserverState → ObserverState),
    (∀ x, ((f x).autoFlush, (f x).flushEnabled) = (x.autoFlush, x.flushEnabled)) →
    I w → I (w.setObserver o (f (w.observer o)))

/-- An invariant kept around the work, also where a unit's context or observer is looked up
and made on first use. -/
class AroundAttempt (I : World → Prop) : Prop extends AroundWork I where
  context : ∀ {σ : Type} (u : Nat), Keeps (σ := σ) I (UnitOfWork.context u)
  observer : ∀ {σ : Type} (u : Nat), Keeps (σ := σ) I (UnitOfWork.observer u)

section Library

variable {I : World → Prop}

-- reading the world keeps any invariant
theorem Exec.get_keeps (e : Nat) : Keeps (σ := σ) I (Exec.get e) :=
  .bind .world fun _ => .pure _

theorem Context.hasTxn_keeps (c' : Nat) : Keeps (σ := σ) I (Context.hasTxn c') :=
  .bind .world fun _ => .pure _

theorem UnitOfWork.get_keeps (u' : Nat) : Keeps (σ := σ) I (UnitOfWork.get u') :=
  .bind .world fun _ => .pure _

/-- Letting the host program's hooks see a failed commit or rollback. -/
theorem Context.failedThrough_keeps {h : Hooks σ} (hh : Hooks.Keep I h) (c' : Nat) (act : TxnAction)
    (e : Fault) : Keeps I (Context.failedThrough h c' act e) :=
  .bind (.bind .world fun _ => .pure _) fun _ => .ofRun (Run.Keeps.foldlM (fun e i => by
    cases i with
    | observer o' => exact Run.Keeps.bind Run.Keeps.world fun _ => Run.Keeps.pure _
    | host k => exact hh.failed k act e) e)

/-! ### Around the work, for any invariant

Running work in its scope, invoking it there, and an attempt keep an invariant if each step
they are made of keeps it: marking the scope aborted, looking at a token and disposing the
scope; making the scope and its token, and committing. -/

section Composition

variable {h : Hooks σ}

/-- A factory's call keeps what its bookkeeping and the making of a context keep, whatever it
answers. -/
theorem Factory.create_keeps_of {f : Nat}
    (hcount : ∀ fa, Keeps (σ := σ) I (Act.modifyWorld fun w => w.setFactory f fa))
    (hcreate : Keeps (σ := σ) I Context.create) : Keeps (σ := σ) I (Factory.create f) := by
  refine .bind .world fun _ => ?_
  dsimp only
  split
  · exact .bind (hcount _) fun _ => .throw _
  · exact .bind (hcount _) fun _ => hcreate

theorem Exec.runWork_keeps_of {α : Type} {e : Nat} {wait : Wait} {body : Act σ α}
    (hmod : ∀ f, Keeps (σ := σ) I (Exec.modify e f)) (hcan : ∀ t, Keeps (σ := σ) I (Cancellation.isCancelled t))
    (hdisp : Keeps I (Exec.dispose h e wait)) (hb : Keeps I body) :
    Keeps I (Exec.runWork h e body wait) := by
  have rest : ∀ result : Except Fault α, Keeps I (do
      let completed ← Exec.isCompleted e
      let disposed ← Act.outcome (Exec.dispose h e wait)
      Act.ofExcept ((settle result disposed).map (·, completed))) := fun _ =>
    .bind (.bind (Exec.get_keeps e) fun _ => .pure _) fun _ => .bind (.outcome hdisp) fun _ => .ofExcept _
  refine .bind (Exec.get_keeps e) fun x => ?_
  dsimp only
  cases wait with
  | blocking =>
    refine .bind (.outcome hb) fun result => ?_
    split
    · exact .bind (hmod _) fun _ => rest _
    · exact rest _
  | async t =>
    refine .bind (hcan _) fun _ => ?_
    split
    · refine .bind (.pure _) fun _ => ?_
      split
      · exact .bind (hmod _) fun _ => rest _
      · exact rest _
    · refine .bind (.outcome hb) fun r => ?_
      split
      · refine .bind (hcan _) fun _ => ?_
        split <;>
        · refine .bind (.pure _) fun _ => ?_
          split
          · exact .bind (hmod _) fun _ => rest _
          · exact rest _
      · refine .bind (.pure _) fun _ => ?_
        split
        · exact .bind (hmod _) fun _ => rest _
        · exact rest _

theorem Exec.invokeAndRun_keeps_of {α : Type} {e : Nat} {wait : Wait} {work : Work σ α}
    (hrun : ∀ {body : Act σ α}, Keeps I body → Keeps I (Exec.runWork h e body wait))
    (hw : Work.Keeps I work) : Keeps I (Exec.invokeAndRun h e work wait) := by
  unfold Exec.invokeAndRun
  cases wait with
  | blocking => exact hrun (.bind_of_ok (hw e).1 fun _ _ _ hi hx => (hw e).2 hi hx)
  | async t => exact .bind_of_ok (hw e).1 fun _ _ _ hi hx => hrun ((hw e).2 hi hx)

theorem Execution.attempt_keeps_of {α : Type} {u c : Nat} {options : Options} {work : Work σ α}
    {wait : Wait} (htok : Keeps I (wait.scopeToken (σ := σ)))
    (hcreate : ∀ t, Keeps (σ := σ) I (Exec.create u c false t))
    (hrun : ∀ e, Keeps I (Exec.invokeAndRun h e work wait))
    (hcommit : Keeps I (UnitOfWork.tryCommit h u wait)) :
    Keeps I (Execution.attempt h u c options work wait) := by
  refine .bind htok fun _ => .bind (hcreate _) fun e => .bind (hrun e) fun r => ?_
  dsimp only
  refine .ite (.bind (.outcome hcommit) fun
    | .ok _ => .bind (.pure _) fun _ => .pure _
    | .error _ => .bind (.throw _) fun _ => .pure _) (.pure _)

end Composition

section Around

variable [AroundWork I]

/-- An operation that leaves the units, the observers and the providers alone. -/
theorem keeps_of_frame {α : Type} {x : Act σ α}
    (h : ∀ ⦃s s' r⦄, exec x s = (r, s') → s'.world.units = s.world.units ∧
      s'.world.observers = s.world.observers ∧ s'.world.providers = s.world.providers) :
    Keeps I x := by
  intro s s' r hi hx
  obtain ⟨hu, ho, hp⟩ := h hx
  exact AroundWork.frame hu ho hp hi

theorem Cancellation.isCancelled_keeps (t : Nat) : Keeps (σ := σ) I (Cancellation.isCancelled t) :=
  keeps_of_frame fun _ _ _ hx => by
    simp only [Cancellation.isCancelled, exec_bind, exec_world, exec_pure, Prod.mk.injEq] at hx
    rw [← hx.2]
    exact ⟨rfl, rfl, rfl⟩

theorem Cancellation.suspend_keeps : Keeps (σ := σ) I Cancellation.suspend :=
  keeps_of_frame fun _ _ _ hx => by
    simp only [Cancellation.suspend, exec_modifyWorld, Prod.mk.injEq] at hx
    rw [← hx.2]
    simp [World.foldl_cancel]

theorem Wait.roundTrip_keeps (wait : Wait) : Keeps (σ := σ) I wait.roundTrip := by
  cases wait with
  | blocking => exact .pure _
  | async t =>
    refine .bind ?_ fun _ => .bind Cancellation.suspend_keeps fun _ => ?_ <;>
    · exact .bind (Cancellation.isCancelled_keeps t) fun _ => .ite (.throw _) (.pure _)

theorem Wait.pause_keeps (wait : Wait) : Keeps (σ := σ) I wait.pause := by
  cases wait with
  | blocking => exact .pure _
  | async t => exact Cancellation.suspend_keeps

theorem Wait.scopeToken_keeps (wait : Wait) : Keeps (σ := σ) I wait.scopeToken := by
  cases wait with
  | blocking =>
    exact .bind .world fun _ => .bind (.modifyWorld fun _ => AroundWork.frame rfl rfl rfl) fun _ => .pure _
  | async t => exact .pure _

theorem Exec.modify_keeps (e : Nat) (f : ExecState → ExecState) : Keeps (σ := σ) I (Exec.modify e f) :=
  .modifyWorld fun _ => AroundWork.frame rfl rfl rfl

theorem Exec.create_keeps (u' c' : Nat) (nested : Bool) (t : Nat) :
    Keeps (σ := σ) I (Exec.create u' c' nested t) :=
  .bind .world fun _ => .bind (.modifyWorld fun _ => AroundWork.frame rfl rfl rfl) fun _ => .pure _

theorem Context.modify_keeps (c' : Nat) (f : ContextState → ContextState) :
    Keeps (σ := σ) I (Context.modify c' f) :=
  .modifyWorld fun _ => AroundWork.frame rfl rfl rfl

theorem database_keeps {α : Type} (x : Database.Step α) : Keeps (σ := σ) I (Act.database x) :=
  Keeps.database (I := I) (fun _ _ => AroundWork.frame rfl rfl rfl) x

theorem Context.takeTxn_keeps (c' : Nat) : Keeps (σ := σ) I (Context.takeTxn c') :=
  .bind (.bind .world fun _ => .pure _) fun
    | some _ => .bind (Context.modify_keeps _ _) fun _ => .pure _
    | none => .throw _

theorem Context.addInterceptor_keeps (c' : Nat) (i : Interceptor) :
    Keeps (σ := σ) I (Context.addInterceptor c' i) := by
  refine .bind .world fun _ => ?_
  dsimp only
  exact .ite (.bind (.throw _) fun _ => Context.modify_keeps _ _) (Context.modify_keeps _ _)

/-- Closing the connection rolls back its transaction in the database. -/
theorem Context.close_keeps (c' : Nat) : Keeps (σ := σ) I (Context.close c') := by
  refine .bind .world fun ctx => .bind (Context.modify_keeps _ _) fun _ => ?_
  cases ctx.context c'|>.txn with
  | some t => exact database_keeps _
  | none => exact .pure _

/-- Taking or freeing a unit's lock. -/
theorem UnitOfWork.modify_lock_keeps (u' : Nat) (l : LockState) :
    Keeps (σ := σ) I (UnitOfWork.modify u' fun x => { x with lock := l }) :=
  .modifyWorld fun w => AroundWork.lock w u' l

theorem UnitOfWork.locked_keeps {α : Type} (u' : Nat) {body : Act σ α} (hb : Keeps I body) :
    Keeps I (UnitOfWork.locked u' body) := by
  refine .bind ?_ fun _ => .bind (.outcome hb) fun _ =>
    .bind (UnitOfWork.modify_lock_keeps u' .free) fun _ => .ofExcept _
  refine .bind (UnitOfWork.get_keeps u') fun x => ?_
  split
  · exact UnitOfWork.modify_lock_keeps u' .held
  · exact .throw _
  · exact .throw _

theorem Context.create_keeps : Keeps (σ := σ) I Context.create :=
  .bind .world fun _ => .bind (.modifyWorld fun _ => AroundWork.frame rfl rfl rfl) fun _ => .pure _

theorem Factory.create_keeps (f : Nat) : Keeps (σ := σ) I (Factory.create f) :=
  Factory.create_keeps_of (fun _ => .modifyWorld fun _ => AroundWork.frame rfl rfl rfl)
    Context.create_keeps

theorem UnitOfWork.modifyObserver_keeps (o' : Nat) (f : ObserverState → ObserverState)
    (hf : ∀ x, ((f x).autoFlush, (f x).flushEnabled) = (x.autoFlush, x.flushEnabled)) :
    Keeps (σ := σ) I (UnitOfWork.modifyObserver o' f) :=
  .modifyWorld fun w => AroundWork.flush w o' f hf

end Around

section Prepared

variable {u c o : Nat} {a : AutoFlush}

instance : AroundWork (Prepared u c o a) where
  frame _ _ hu ho _ hk := hk.of_eq hu ho
  lock _ u' l hk := hk.setUnit u' (fun x => { x with lock := l }) fun _ => rfl
  flush _ o' f hf hk := hk.setObserver o' f (hf _)

/-- Another unit's context may be created; the unit's own is there already. -/
theorem UnitOfWork.context_keeps (u' : Nat) :
    Keeps (σ := σ) (Prepared u c o a) (UnitOfWork.context u') := by
  by_cases hu : u' = u
  · subst hu
    intro s s' r hk hx
    rw [UnitOfWork.context_exec hk.context] at hx
    obtain ⟨-, rfl⟩ := Prod.mk.inj hx
    exact hk
  · refine .bind (UnitOfWork.get_keeps u') fun _ => ?_
    split
    · exact .pure _
    · refine UnitOfWork.locked_keeps u' (.bind (UnitOfWork.get_keeps u') fun _ => ?_)
      split
      · exact .pure _
      · refine .bind (UnitOfWork.get_keeps u') fun _ => .bind (Factory.create_keeps _) fun c' => ?_
        exact .bind (.modifyWorld fun _ hk => hk.setUnit u' (fun x => { x with context := some c' })
          fun h => absurd h hu) fun _ => .pure _

/-- Another unit's observer may be attached; the unit's own is there already. -/
theorem UnitOfWork.observer_keeps (u' : Nat) :
    Keeps (σ := σ) (Prepared u c o a) (UnitOfWork.observer u') := by
  by_cases hu : u' = u
  · subst hu
    intro s s' r hk hx
    rw [UnitOfWork.observer_exec hk.observer] at hx
    obtain ⟨-, rfl⟩ := Prod.mk.inj hx
    exact hk
  · refine .bind (UnitOfWork.get_keeps u') fun _ => ?_
    split
    · exact .pure _
    · refine .bind (UnitOfWork.context_keeps u') fun c' => UnitOfWork.locked_keeps u'
        (.bind (UnitOfWork.get_keeps u') fun _ => ?_)
      split
      · exact .pure _
      · refine .bind (UnitOfWork.get_keeps u') fun _ => .bind .world fun _ => ?_
        refine .bind (.outcome (Context.addInterceptor_keeps c' _)) fun
          | .error _ => .throw _
          | .ok () => ?_
        exact .bind (.modifyWorld fun _ hk => hk.pushObserver _) fun _ =>
          .bind (.modifyWorld fun _ hk => hk.setUnit u' (fun x => { x with observer := some _ })
            fun h => absurd h hu) fun _ => .pure _

instance : AroundAttempt (Prepared u c o a) where
  context := UnitOfWork.context_keeps
  observer := UnitOfWork.observer_keeps

end Prepared

section Attempt

variable [AroundAttempt I]

theorem UnitOfWork.invalidate_keeps (u' : Nat) : Keeps (σ := σ) I (UnitOfWork.invalidate u') :=
  .bind (AroundAttempt.observer u') fun o' => UnitOfWork.modifyObserver_keeps o' _ fun _ => rfl

theorem UnitOfWork.undoInvalidation_keeps (u' : Nat) :
    Keeps (σ := σ) I (UnitOfWork.undoInvalidation u') :=
  .bind (AroundAttempt.observer u') fun o' => UnitOfWork.modifyObserver_keeps o' _ fun _ => rfl

theorem UnitOfWork.tryFinish_keeps (u' : Nat) {finish : Nat → Act σ Unit}
    (hf : ∀ c', Keeps I (finish c')) : Keeps I (UnitOfWork.tryFinish u' finish) := by
  refine .bind (AroundAttempt.context u') fun c' => .bind (Context.hasTxn_keeps c') fun _ => ?_
  refine .ite (.pure _) (UnitOfWork.locked_keeps u' (.bind (Context.hasTxn_keeps c') fun _ => ?_))
  exact .ite (.pure _) (.bind (hf c') fun _ => .pure _)

/-- The reset after a failed attempt. -/
theorem UnitOfWork.resetAfterFailure_keeps (u' c' : Nat) :
    Keeps (σ := σ) I (UnitOfWork.resetAfterFailure u' c') :=
  .bind (Context.modify_keeps c' _) fun _ =>
    .bind (.outcome (.bind (AroundAttempt.observer u') fun o' =>
      UnitOfWork.modifyObserver_keeps o' _ fun _ => rfl)) fun _ =>
    .bind (.outcome (Context.close_keeps c')) fun _ =>
    .bind (.outcome (UnitOfWork.undoInvalidation_keeps u')) fun _ => .pure _

section Hooks

variable {h : Hooks σ} (hh : Hooks.Keep I h)
include hh

/-- Committing or rolling back the context's transaction. -/
theorem Context.finish_keeps {wait' : Act σ Unit} (hw : Keeps I wait')
    (act : TxnAction) (step : Nat → Database.Step Unit) (c' : Nat) :
    Keeps I (do
      wait'
      let t ← Context.takeTxn c'
      match ← Act.outcome (Act.database (step t)) with
      | .ok () => pure ()
      | .error e => throw (← Context.failedThrough h c' act e)) :=
  .bind hw fun _ => .bind (Context.takeTxn_keeps c') fun _ =>
    .bind (.outcome (database_keeps _)) fun
      | .ok () => .pure _
      | .error e => .bind (Context.failedThrough_keeps hh c' act e) fun _ => .throw _

theorem Context.commit_keeps (c' : Nat) (wait : Wait) : Keeps I (Context.commit h c' wait) :=
  Context.finish_keeps hh (Wait.roundTrip_keeps wait) .commit Database.commit c'

theorem Context.rollback_keeps (c' : Nat) (wait : Wait) : Keeps I (Context.rollback h c' wait) :=
  Context.finish_keeps hh (Wait.pause_keeps wait) .rollback Database.rollback c'

theorem UnitOfWork.tryCommit_keeps (u' : Nat) (wait : Wait) :
    Keeps I (UnitOfWork.tryCommit h u' wait) :=
  UnitOfWork.tryFinish_keeps u' fun c' => Context.commit_keeps hh c' wait

theorem UnitOfWork.tryRollbackInvalidate_keeps (u' : Nat) (wait : Wait) :
    Keeps I (UnitOfWork.tryRollbackInvalidate h u' wait) :=
  .bind (UnitOfWork.invalidate_keeps u') fun _ =>
    UnitOfWork.tryFinish_keeps u' fun c' => Context.rollback_keeps hh c' wait

theorem Exec.dispose_keeps (e : Nat) (wait : Wait) : Keeps I (Exec.dispose h e wait) := by
  refine .bind (Exec.get_keeps e) fun x => .ite (.pure _) (.bind (Exec.modify_keeps e _) fun _ => ?_)
  exact .ite (.bind (UnitOfWork.tryRollbackInvalidate_keeps hh x.unit wait) fun _ => .pure _) (.pure _)

/-- Running a body of work in its scope keeps `I` if the body does. -/
theorem Exec.runWork_keeps {α : Type} (e : Nat) {body : Act σ α} (hb : Keeps I body)
    (wait : Wait) : Keeps I (Exec.runWork h e body wait) :=
  Exec.runWork_keeps_of (Exec.modify_keeps e) Cancellation.isCancelled_keeps
    (Exec.dispose_keeps hh e wait) hb

theorem Exec.invokeAndRun_keeps {α : Type} (e : Nat) {work : Work σ α} (hw : Work.Keeps I work)
    (wait : Wait) : Keeps I (Exec.invokeAndRun h e work wait) :=
  Exec.invokeAndRun_keeps_of (fun hb => Exec.runWork_keeps hh e hb wait) hw

/-- An attempt keeps `I` if its work does. -/
theorem Execution.attempt_keeps {α : Type} (u' c' : Nat) (options : Options) {work : Work σ α}
    (hw : Work.Keeps I work) (wait : Wait) : Keeps I (Execution.attempt h u' c' options work wait) :=
  Execution.attempt_keeps_of (Wait.scopeToken_keeps wait) (fun _ => Exec.create_keeps _ _ _ _)
    (fun e => Exec.invokeAndRun_keeps hh e hw wait) (UnitOfWork.tryCommit_keeps hh u' wait)

end Hooks

end Attempt

end Library

end ScopedWork

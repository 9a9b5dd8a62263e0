import ScopedWork.Provider
import ScopedWork.Strategy

/-!
# Scoped execution

Scoped execution runs work in a scope opened through a provider. The first execution of a
unit of work is its root: it moves the unit to scoped execution, attaches the observer,
lets queries flush, and runs the work under the strategy of its options. Every attempt
gets an execution scope; when the work ends with its scope completed, the unit's
transaction is committed. A failed attempt, commit included, resets the unit: tracked
entities are forgotten, the observer's change detection is reset, the connection is closed
and the invalidation lifted, so the next attempt starts clean.

An execution inside a root joins it: its work runs once in a nested scope, and nothing is
committed until the root commits. Aborting a scope, or failing in it, rolls back the
unit's transaction and invalidates the unit, so that everything else in it refuses to go on.

A failure to commit is reported as a commit failure (which is never retried) when the
options ask for it, except a cancellation. After the work, the scope is disposed; a
failure of the work wins over a failure of the disposal.

Asynchronous execution runs in a flow of its own and under one cancellation token: a
cancelled token stops the work before it runs and turns its success into a cancellation.
-/

namespace ScopedWork

/-- Work run by scoped execution: given its execution scope, it starts and hands back what
remains to run. -/
abbrev Work (σ α : Type) := Nat → Act σ (Act σ α)

/-- The outcome of work, unless cleaning up after it failed while the work succeeded. -/
def settle {α : Type} : Except Fault α → Except Fault Unit → Except Fault α
  | .ok _, .error e => .error e
  | outcome, _ => outcome

/-- The fault to report for a failed commit. -/
def commitFault (options : Options) (e : Fault) : Fault :=
  if options.avoidCommitRetries && !e.isCommitFailure && !e.isCancelled then .commitFailed e else e

/-- Scoped execution inside a unit of work that is driven by hand. -/
def manualParentFault : Fault :=
  .invalid "Scoped execution inside a parent scope that does not use scoped execution results in undefined behavior."

namespace Wait

variable {σ : Type}

/-- What a strategy sees of the way an execution waits. -/
def waiting : Wait → Option (Waiting (Act σ))
  | blocking => none
  | async token => some { cancelled := Cancellation.isCancelled token, pause := Cancellation.suspend }

/-- The token of a new execution scope: its own for blocking work, the execution's
otherwise. -/
def scopeToken : Wait → Act σ Nat
  | blocking => Cancellation.freshToken false
  | async token => pure token

end Wait

namespace Exec

variable {σ : Type}

def get (e : Nat) : Act σ ExecState := do
  return (← Act.world).exec e

def modify (e : Nat) (f : ExecState → ExecState) : Act σ Unit :=
  Act.modifyWorld fun w => w.setExec e (f (w.exec e))

/-- A new execution scope, completed until aborted. -/
def create (unit context : Nat) (nested : Bool) (token : Nat) : Act σ Nat := do
  let w ← Act.world
  Act.modifyWorld fun w => { w with execs := w.execs.push { unit, context, nested, token } }
  return w.execs.size

/-- Mark the scope as not completed. -/
def abort (e : Nat) : Act σ Unit :=
  modify e fun x => { x with completed := false }

def isCompleted (e : Nat) : Act σ Bool := do
  return (← get e).completed

def isCancelled (e : Nat) : Act σ Bool := do
  Cancellation.isCancelled (← get e).token

/-- Dispose the scope once: an aborted scope rolls back its unit's transaction and
invalidates the unit. -/
def dispose (h : Hooks σ) (e : Nat) (wait : Wait) : Act σ Unit := do
  let x ← get e
  if x.disposed then return ()
  modify e fun x => { x with disposed := true }
  if !x.completed then
    let _ ← UnitOfWork.tryRollbackInvalidate h x.unit wait

/-- Run the body of work in its scope, aborting the scope if it fails, and dispose the
scope; the value and whether the scope was completed. -/
def runWork {α : Type} (h : Hooks σ) (e : Nat) (body : Act σ α) (wait : Wait) :
    Act σ (α × Bool) := do
  let token := (← get e).token
  let result ← match wait with
    | .blocking => Act.outcome body
    | .async _ => do
      if (← Cancellation.isCancelled token) then pure (.error .cancelled)
      else
        match ← Act.outcome body with
        | .ok a => if (← Cancellation.isCancelled token) then pure (.error .cancelled) else pure (.ok a)
        | .error err => pure (.error err)
  if let .error _ := result then abort e
  let completed ← isCompleted e
  let disposed ← Act.outcome (dispose h e wait)
  Act.ofExcept ((settle result disposed).map (·, completed))

/-- Invoke the work and run it in its scope. -/
def invokeAndRun {α : Type} (h : Hooks σ) (e : Nat) (work : Work σ α) (wait : Wait) :
    Act σ (α × Bool) := do
  match wait with
  | .blocking => runWork h e (do (← work e)) wait
  | .async _ =>
    let pending ← work e
    runWork h e pending wait

end Exec

namespace UnitOfWork

variable {σ : Type}

/-- Make a unit of work ready to be the root of scoped execution; its context. -/
def prepareRoot (u : Nat) : Act σ Nat := do
  promote u .scopedExecution
  let _ ← observer u
  enableAutoFlush u
  context u

/-- Forget what a failed attempt left behind; nothing here fails. -/
def resetAfterFailure (u c : Nat) : Act σ Unit := do
  Context.clearTracked c
  let _ ← Act.outcome (do
    let o ← observer u
    modifyObserver o fun ob => { ob with explicitChanges := false, saving := false })
  let _ ← Act.outcome (Context.close c)
  let _ ← Act.outcome (undoInvalidation u)

end UnitOfWork

namespace Execution

variable {σ : Type}

/-- One attempt of a root execution: run the work in a fresh scope and commit if the scope
completed. -/
def attempt {α : Type} (h : Hooks σ) (u c : Nat) (options : Options) (work : Work σ α)
    (wait : Wait) : Act σ α := do
  let e ← Exec.create u c false (← wait.scopeToken)
  let (v, completed) ← Exec.invokeAndRun h e work wait
  if completed then
    match ← Act.outcome (UnitOfWork.tryCommit h u wait) with
    | .ok _ => pure ()
    | .error err => throw (commitFault options err)
  return v

/-- The part of an attempt before its commit: a fresh scope, with the work invoked and run in
it; the work's value and whether the scope completed. -/
def attemptScope {α : Type} (h : Hooks σ) (u c : Nat) (work : Work σ α) (wait : Wait) : Act σ (α × Bool) := do
  let e ← Exec.create u c false (← wait.scopeToken)
  Exec.invokeAndRun h e work wait

/-- An attempt is its scope, then the commit when the scope completed. -/
theorem attempt_eq_scoped {α : Type} (h : Hooks σ) (u c : Nat) (options : Options) (work : Work σ α)
    (wait : Wait) :
    attempt h u c options work wait = (do
      let (v, completed) ← attemptScope h u c work wait
      if completed then
        match ← Act.outcome (UnitOfWork.tryCommit h u wait) with
        | .ok _ => pure ()
        | .error err => throw (commitFault options err)
      return v) := by
  simp only [attempt, attemptScope, bind_assoc]

/-- The root execution of a unit of work, under the strategy of its options. -/
def root {α : Type} (h : Hooks σ) (u : Nat) (options : Options) (work : Work σ α)
    (wait : Wait) : Act σ α := do
  let c ← UnitOfWork.prepareRoot u
  let once : Act σ (Except Fault α) := do
    let r ← Act.outcome (attempt h u c options work wait)
    if let .error _ := r then UnitOfWork.resetAfterFailure u c
    return r
  let strategy := Strategy.forExecution options
  let (r, _) ← strategy.run wait.waiting once strategy.initial
  Act.ofExcept r

/-- An execution inside the root execution of its unit of work. -/
def nested {α : Type} (h : Hooks σ) (u : Nat) (work : Work σ α) (wait : Wait) : Act σ α := do
  if (← UnitOfWork.mode u) != .scopedExecution then throw manualParentFault
  let c ← UnitOfWork.context u
  let e ← Exec.create u c true (← wait.scopeToken)
  let (v, _) ← Exec.invokeAndRun h e work wait
  return v

/-- The work, failing with the provider's simulated conflict when the provider says so;
the unit's transaction is committed first if `afterCommit`. -/
def conflicting {α : Type} (h : Hooks σ) (p : Nat) (afterCommit : Bool) (work : Work σ α)
    (wait : Wait) : Work σ α := fun e => do
  let u := (← Exec.get e).unit
  let fail ← Provider.shouldFail p u
  let pending ← work e
  return do
    let v ← pending
    if fail then
      if afterCommit then
        let _ ← UnitOfWork.tryCommit h u wait
      throw simulatedConflict
    return v

/-- Run work in a scope opened through provider `p` with a nesting option. -/
def execute {α : Type} (h : Hooks σ) (p : Nat) (option : ScopeOption) (work : Work σ α)
    (wait : Wait) : Act σ α := do
  let body : Act σ α := do
    UnitOfWork.ensureNoExternal
    let pr := (← Act.world).provider p
    let work := match pr.conflict with
      | some sim => conflicting h p sim.afterCommit work wait
      | none => work
    let scope ← Scope.activate option pr.factory pr.options
    let outcome ← Act.outcome (if scope.root then root h scope.value pr.options work wait
      else nested h scope.value work wait)
    let disposed ← Act.outcome (Scope.dispose h scope wait)
    Act.ofExcept (settle outcome disposed)
  match wait with
  | .blocking => body
  | .async _ => Ambient.inFlow body

end Execution

end ScopedWork

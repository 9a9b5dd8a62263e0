import ScopedWork.UnitOfWork.Basic

/-!
# Contexts: transaction control

Beginning a transaction first asks every interceptor (an invalidated unit's observer
refuses, then its start listeners run), then refuses a connection that already has one.
When the database refuses to begin, commit or roll back, the fault is passed through every
interceptor's `failed` hook in turn, and the last answer is reported: the observer turns a
failed commit into an uncertain outcome.

Committing or rolling back empties the connection's slot before asking the database, so a
failed commit leaves no transaction behind.
-/

namespace ScopedWork

namespace Observer

variable {σ : Type}

/-- The observer's guard before a transaction starts or a command is created: an
invalidated unit refuses, then the listeners run in order. -/
def guard (h : Hooks σ) (o : Nat) (listeners : ObserverState → List Nat) : Act σ Unit := do
  let ob := (← Act.world).observer o
  if ob.aborted then throw .aborted
  (listeners ob).forM h.listen

end Observer

namespace Context

variable {σ : Type}

/-- Ask every interceptor about to `g`; the observer answers with `onObserver`. The first
refusal stops the round. -/
def guardEach (h : Hooks σ) (c : Nat) (g : Guard) (onObserver : Nat → Act σ Unit) :
    Act σ Unit := do
  let is ← interceptorsNow c
  is.forM fun
    | .observer o => onObserver o
    | .host k => h.guard k g

/-- The fault to report for a failed transaction operation, after every interceptor had its
say. -/
def failedThrough (h : Hooks σ) (c : Nat) (a : TxnAction) (e : Fault) : Act σ Fault := do
  let is ← interceptorsNow c
  let step : Fault → Interceptor → Run σ Fault := fun e i =>
    match i with
    | .observer o => return ((← Run.world).observer o).failed a e
    | .host k => h.failed k a e
  Act.ofRun (is.foldlM step e)

/-- Begin a transaction on the connection, after a round trip. -/
def begin (h : Hooks σ) (c : Nat) (iso : Option Isolation) (wait : Wait) : Act σ Nat := do
  wait.roundTrip
  guardEach h c .transactionStarting fun o => Observer.guard h o (·.startListeners)
  if (← hasTxn c) then throw (.invalid "The connection is already in a transaction")
  match ← Act.outcome (Act.database (Database.begin iso)) with
  | .ok t =>
    modify c fun ctx => { ctx with txn := some t }
    return t
  | .error e => throw (← failedThrough h c .begin e)

/-- Take the connection's transaction out of its slot. -/
def takeTxn (c : Nat) : Act σ Nat := do
  match (← currentTxn c) with
  | some t =>
    modify c fun ctx => { ctx with txn := none }
    return t
  | none => throw (.invalid "No transaction is active")

/-- Commit the connection's transaction, after a round trip. -/
def commit (h : Hooks σ) (c : Nat) (wait : Wait) : Act σ Unit := do
  wait.roundTrip
  let t ← takeTxn c
  match ← Act.outcome (Act.database (Database.commit t)) with
  | .ok () => pure ()
  | .error e => throw (← failedThrough h c .commit e)

/-- Roll back the connection's transaction; waiting for it is never cancelled. -/
def rollback (h : Hooks σ) (c : Nat) (wait : Wait) : Act σ Unit := do
  wait.pause
  let t ← takeTxn c
  match ← Act.outcome (Act.database (Database.rollback t)) with
  | .ok () => pure ()
  | .error e => throw (← failedThrough h c .rollback e)

end Context

/-!
## Units of work: their transaction

A unit of work starts, commits and rolls back the transaction of its context. Each
operation answers whether it did anything: starting while a transaction is open, or
finishing while none is, does nothing. The state of the connection is looked at before the
lock is taken and again under it; the operation itself runs under the lock, so a hook that
reaches back into the unit of work meanwhile meets a lock error.

A unit of work never starts a transaction while an external transaction is open.
-/

namespace UnitOfWork

variable {σ : Type}

/-- Start a transaction at the unit's isolation level, unless one is open. -/
def tryStart (h : Hooks σ) (u : Nat) (wait : Wait) : Act σ Bool := do
  let c ← context u
  if (← Context.hasTxn c) then return false
  locked u do
    if (← Context.hasTxn c) then return false
    ensureNoExternal
    let _ ← Context.begin h c (← isolation u) wait
    return true

/-- Finish the open transaction with `finish`, if one is open. -/
def tryFinish (u : Nat) (finish : Nat → Act σ Unit) : Act σ Bool := do
  let c ← context u
  if !(← Context.hasTxn c) then return false
  locked u do
    if !(← Context.hasTxn c) then return false
    finish c
    return true

/-- Commit the open transaction, if one is open. -/
def tryCommit (h : Hooks σ) (u : Nat) (wait : Wait) : Act σ Bool :=
  tryFinish u fun c => Context.commit h c wait

/-- Roll back the open transaction, if one is open. -/
def tryRollback (h : Hooks σ) (u : Nat) (wait : Wait) : Act σ Bool :=
  tryFinish u fun c => Context.rollback h c wait

/-- Invalidate the unit, then roll back the open transaction. -/
def tryRollbackInvalidate (h : Hooks σ) (u : Nat) (wait : Wait) : Act σ Bool := do
  invalidate u
  tryRollback h u wait

end UnitOfWork

end ScopedWork

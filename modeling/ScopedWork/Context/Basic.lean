import ScopedWork.World

/-!
# Contexts: tracking, notifications and the connection

A context tracks entities and reports what happened to every interceptor, in registration
order. The interceptor list is read afresh at the start of every round of calls, so an
interceptor registered during a round is first called in the next one.

The observer of a unit of work reacts to notifications on its own: an explicit add, update
or remove marks explicit changes (when its flush mode looks for them), a finished save
clears them.

Closing the connection rolls back its open transaction without calling any hook.
-/

namespace ScopedWork

namespace ObserverState

/-- Explicit changes are tracked from `explicit` mode on. -/
def watchesExplicit (o : ObserverState) : Bool := 1 ≤ o.autoFlush.rank

/-- How the observer takes note of a notification. -/
def noticed (o : ObserverState) : Notice → ObserverState
  | .savedChanges _ => { o with explicitChanges := false, saving := false }
  | .saveFailed => { o with saving := false }
  | .entityTracked fromQuery =>
    if !fromQuery && o.watchesExplicit then { o with explicitChanges := true } else o
  | .stateChanged s =>
    if s.isPending && o.watchesExplicit then { o with explicitChanges := true } else o

/-- What the observer reports instead of a failed transaction operation: a failed commit is
an uncertain outcome, when so configured. -/
def failed (o : ObserverState) (a : TxnAction) (e : Fault) : Fault :=
  if a == .commit && o.avoidCommitRetries && !e.isCommitFailure then .commitFailed e else e

end ObserverState

namespace Context

variable {σ : Type}

/-- The context's interceptors now. -/
def interceptorsNow (c : Nat) : Act σ (List Interceptor) := do
  return ((← Act.world).context c).interceptors

/-- Change a context. -/
def modify (c : Nat) (f : ContextState → ContextState) : Act σ Unit :=
  Act.modifyWorld fun w => w.setContext c (f (w.context c))

/-- Pass a notification to one interceptor. -/
def notifyOne (h : Hooks σ) (n : Notice) : Interceptor → Run σ Unit
  | .observer o => Run.modifyWorld fun w => w.setObserver o ((w.observer o).noticed n)
  | .host k => h.notice k n

/-- Pass notifications to every interceptor, all of them to one before the next. -/
def notifyEach (h : Hooks σ) (c : Nat) (ns : List Notice) : Act σ Unit := do
  let is ← interceptorsNow c
  Act.ofRun (is.forM fun i => ns.forM fun n => notifyOne h n i)

/-- What the context tells an interceptor about itself. -/
def probe (c : Nat) : Act σ Probe := do
  let ctx := (← Act.world).context c
  return { pending := ctx.tracker.hasPending, txn := ctx.txn }

/-- The connection's transaction. -/
def currentTxn (c : Nat) : Act σ (Option Nat) := do
  return ((← Act.world).context c).txn

def hasTxn (c : Nat) : Act σ Bool := do
  return ((← Act.world).context c).txn.isSome

def hasPending (c : Nat) : Act σ Bool := do
  return ((← Act.world).context c).tracker.hasPending

def trackedCount (c : Nat) : Act σ Nat := do
  return ((← Act.world).context c).tracker.size

def closeCount (c : Nat) : Act σ Nat := do
  return ((← Act.world).context c).closes

/-- The isolation level of the connection's transaction. -/
def isolation (c : Nat) : Act σ (Option Isolation) := do
  let w ← Act.world
  return (w.context c).txn.bind w.db.isolation

/-- Run a tracker operation and store the tracker it gives. -/
def onTracker {α : Type} (c : Nat) (f : Tracker → Except Fault (Tracker × α)) : Act σ α := do
  let ctx := (← Act.world).context c
  let (t, a) ← Act.ofExcept (f ctx.tracker)
  modify c fun ctx => { ctx with tracker := t }
  return a

/-- Start tracking a new entity. -/
def add (h : Hooks σ) (c : Nat) (k : Key) (v : Value) : Act σ Unit := do
  onTracker c fun t => (t.trackAdded k v).map (·, ())
  notifyEach h c [.entityTracked false, .stateChanged .added]

/-- Give a tracked entity a new value. -/
def update (h : Hooks σ) (c : Nat) (k : Key) (v : Value) : Act σ Unit := do
  let s ← onTracker c fun t => t.modify k v
  notifyEach h c [.stateChanged s]

/-- Mark a tracked entity for deletion. -/
def remove (h : Hooks σ) (c : Nat) (k : Key) : Act σ Unit := do
  let s ← onTracker c fun t => t.remove k
  notifyEach h c [.stateChanged s]

/-- Change a tracked entity without telling anyone. -/
def modifyUntracked (c : Nat) (k : Key) (v : Value) : Act σ Unit :=
  onTracker c fun t => (t.modifyUntracked k v).map (·, ())

/-- Forget every tracked entity. -/
def clearTracked (c : Nat) : Act σ Unit :=
  modify c fun ctx => { ctx with tracker := ctx.tracker.clear }

/-- Close the connection: count it, and roll back the open transaction if there is one. -/
def close (c : Nat) : Act σ Unit := do
  let ctx := (← Act.world).context c
  modify c fun ctx => { ctx with closes := ctx.closes + 1, txn := none }
  match ctx.txn with
  | some t => Act.database (Database.rollback t)
  | none => pure ()

/-- Register an interceptor, if the database lets contexts have them. -/
def addInterceptor (c : Nat) (i : Interceptor) : Act σ Unit := do
  if !(← Act.world).db.interceptable then
    throw (.unsupported "This context does not accept interceptors")
  modify c fun ctx => { ctx with interceptors := ctx.interceptors ++ [i] }

/-- Unregister an interceptor. -/
def removeInterceptor (c : Nat) (i : Interceptor) : Act σ Unit :=
  modify c fun ctx => { ctx with interceptors := ctx.interceptors.filter (· != i) }

/-- A new context on the database. -/
def create : Act σ Nat := do
  let w ← Act.world
  Act.modifyWorld fun w => { w with contexts := w.contexts.push {} }
  return w.contexts.size

end Context

end ScopedWork

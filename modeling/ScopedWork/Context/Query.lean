import ScopedWork.Context.Save

/-!
# Contexts: queries and raw commands

A query asks every interceptor before the command is created, then again before the reader
runs; then it reads what the connection sees. Before a reader, the observer of a unit of
work saves pending changes when its flush mode asks for it: explicit changes always, and
under `explicitAndImplicit` any pending change at all. Finding an entity returns the
tracked value if the entity is tracked, and otherwise starts tracking what the database
holds.

A raw command bypasses the tracker. Before it runs, the observer starts its unit's
transaction (unless a save is under way), so the command joins it; without a transaction
the command commits on its own.

Asynchronous queries and commands make a round trip to the database after the hooks.
-/

namespace ScopedWork

namespace Observer

variable {σ : Type}

/-- Whether the observer saves before a reader runs on a context with or without pending
changes. -/
def flushesBeforeReader (ob : ObserverState) (pending : Bool) : Bool :=
  !ob.saving && ob.flushEnabled &&
    (ob.explicitChanges || (ob.autoFlush == .explicitAndImplicit && pending))

/-- The observer before a reader runs on context `c`. -/
def beforeReader (h : Hooks σ) (o c : Nat) (wait : Wait) : Act σ Unit := do
  let ob := (← Act.world).observer o
  if flushesBeforeReader ob (← Context.hasPending c) then
    let own ← UnitOfWork.context ob.unit
    let _ ← Context.save h own wait

/-- The observer before a raw command: outside a save, its unit needs a transaction. -/
def beforeCommand (h : Hooks σ) (o c : Nat) (wait : Wait) : Act σ Enlistment := do
  let ob := (← Act.world).observer o
  if ob.saving then return .unchanged
  let before ← Context.currentTxn c
  let _ ← UnitOfWork.tryStart h ob.unit wait
  return if (← Context.currentTxn c) != before then .reenlist else .unchanged

end Observer

namespace Context

variable {σ : Type}

/-- Ask every interceptor before a command is created. -/
def beforeCommand (h : Hooks σ) (c : Nat) : Act σ Unit :=
  guardEach h c .commandCreating fun o => Observer.guard h o (·.commandListeners)

/-- Ask every interceptor before a reader runs. -/
def beforeReader (h : Hooks σ) (c : Nat) (wait : Wait) : Act σ Unit := do
  let is ← interceptorsNow c
  is.forM fun
    | .observer o => Observer.beforeReader h o c wait
    | .host k => do h.guard k (.readerExecuting (← probe c))

/-- What the connection sees. -/
def view (c : Nat) : Act σ Tables := do
  Act.database (Database.view (← currentTxn c))

/-- The tracked value of an entity, or else the stored one, which is tracked from now on. -/
def readEntity (h : Hooks σ) (c : Nat) (k : Key) : Act σ (Option Value) := do
  let tables ← view c
  match ((← Act.world).context c).tracker.find? k with
  | some e => return some e.current
  | none =>
    match tables.get? k with
    | none => return none
    | some row =>
      onTracker c fun t => (t.trackLoaded k row.value row.version).map (·, ())
      notifyEach h c [.entityTracked true]
      return some row.value

/-- Find an entity by key. -/
def find (h : Hooks σ) (c : Nat) (k : Key) (wait : Wait) : Act σ (Option Value) := do
  beforeCommand h c
  beforeReader h c wait
  wait.roundTrip
  readEntity h c k

/-- Count the rows of a table that the connection sees. -/
def count (h : Hooks σ) (c : Nat) (table : String) (wait : Wait) : Act σ Nat := do
  beforeCommand h c
  beforeReader h c wait
  wait.roundTrip
  return (← view c).count table

/-- Run a change directly against the database; the number of rows it affects. -/
def executeRaw (h : Hooks σ) (c : Nat) (change : Change) (wait : Wait) : Act σ Nat := do
  beforeCommand h c
  let is ← interceptorsNow c
  is.forM fun
    | .observer o => do let _ ← Observer.beforeCommand h o c wait
    | .host k => do let _ ← h.enlist k (← probe c)
  wait.roundTrip
  writeChanges c [change]

end Context

end ScopedWork

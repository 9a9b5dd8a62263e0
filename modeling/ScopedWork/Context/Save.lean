import ScopedWork.Context.Transaction

/-!
# Contexts: saving changes

Saving first asks every interceptor in turn, stopping at the first refusal; the observer of
a unit of work marks itself as saving and starts the unit's transaction. Then the tracker's
pending changes are written: in the connection's transaction if there is one, else in a
transaction of their own that is committed at once (and rolled back if a change does not
apply). Last, every interceptor hears how it went, whatever happened before.

An asynchronous save makes a round trip to the database between the questions and the
writing.
-/

namespace ScopedWork

namespace Context

variable {σ : Type}

/-- Write changes in the connection's transaction, or in one of their own that commits at
once; the number of rows they affect. -/
def writeChanges (c : Nat) (cs : List Change) : Act σ Nat := do
  match (← currentTxn c) with
  | some t => Act.database (Database.write t cs)
  | none =>
    let t ← Act.database (Database.begin none)
    match ← Act.outcome (Act.database (Database.write t cs)) with
    | .ok n =>
      Act.database (Database.commit t)
      return n
    | .error e =>
      Act.database (Database.rollback t)
      throw e

/-- Write the tracker's pending changes and settle the tracked entities. -/
def flush (c : Nat) : Act σ Nat := do
  let cs := ((← Act.world).context c).tracker.detectChanges
  if cs.isEmpty then return 0
  let n ← writeChanges c cs
  modify c fun ctx => { ctx with tracker := ctx.tracker.acceptChanges }
  return n

end Context

namespace Observer

variable {σ : Type}

/-- The observer before changes are saved: it is saving now, and its unit needs a
transaction. -/
def beforeSave (h : Hooks σ) (o : Nat) (wait : Wait) : Act σ Unit := do
  UnitOfWork.modifyObserver o fun ob => { ob with saving := true }
  let _ ← UnitOfWork.tryStart h ((← Act.world).observer o).unit wait

end Observer

namespace Context

variable {σ : Type}

/-- Save the pending changes; the number of rows they affect. -/
def save (h : Hooks σ) (c : Nat) (wait : Wait) : Act σ Nat := do
  let is ← interceptorsNow c
  let prepared ← Act.outcome (is.forM fun
    | .observer o => Observer.beforeSave h o wait
    | .host k => h.guard k .savingChanges)
  let result ← Act.outcome (do
    Act.ofExcept prepared
    wait.roundTrip
    flush c)
  match result with
  | .ok n => notifyEach h c [.savedChanges n]
  | .error _ => notifyEach h c [.saveFailed]
  Act.ofExcept result

end Context

end ScopedWork

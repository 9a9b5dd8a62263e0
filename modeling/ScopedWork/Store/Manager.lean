import ScopedWork.Store.Transaction

/-!
# The transaction manager

The manager hands out transaction ids, each larger than all before, and keeps the active
transactions. Committing or rolling back removes a transaction and returns it ended; an id
that is not kept (never begun, or already ended) is reported as not found and nothing
changes.
-/

namespace ScopedWork

/-- Active transactions by id, in the order they began, and the next id to hand out. -/
structure TxnManager where
  live : List (Nat × Transaction) := []
  next : Nat := 1
  deriving Repr, Inhabited

namespace TxnManager

/-- The fault for an id the manager does not keep. -/
def notFound (id : Nat) : Fault :=
  .execution ("Transaction " ++ txnText id ++ " not found")

/-- The kept transaction with this id. -/
def find? (m : TxnManager) (id : Nat) : Option Transaction :=
  (m.live.find? (·.1 == id)).map (·.2)

/-- The kept transaction with this id, or the not-found fault. -/
def get (m : TxnManager) (id : Nat) : Except Fault Transaction :=
  match m.find? id with
  | some t => .ok t
  | none => .error (notFound id)

/-- Replace the kept transaction with this id. -/
def put (m : TxnManager) (t : Transaction) : TxnManager :=
  { m with live := m.live.map fun p => if p.1 == t.id then (p.1, t) else p }

/-- Forget the transaction with this id. -/
def drop (m : TxnManager) (id : Nat) : TxnManager :=
  { m with live := m.live.filter (·.1 != id) }

/-- Begin a transaction with a fresh id. -/
def begin (m : TxnManager) (isolation : Option Isolation) : TxnManager × Nat :=
  let id := m.next
  ({ live := m.live ++ [(id, { id, isolation })], next := id + 1 }, id)

/-- Record a change in a kept transaction. -/
def record (m : TxnManager) (id : Nat) (c : Change) : Except Fault TxnManager := do
  let t ← m.get id
  let t ← t.record c
  return m.put t

/-- The change log of a kept transaction. -/
def changes (m : TxnManager) (id : Nat) : Except Fault (List Change) :=
  (m.get id).map (·.log)

/-- The isolation level of a kept transaction; none for an unknown id. -/
def isolation (m : TxnManager) (id : Nat) : Option Isolation :=
  (m.find? id).bind (·.isolation)

/-- Commit a kept transaction: it leaves the manager, committed, with its log. -/
def commit (m : TxnManager) (id : Nat) : Except Fault (TxnManager × Transaction) := do
  let t ← m.get id
  let t ← t.commit
  return (m.drop id, t)

/-- Roll back a kept transaction: it leaves the manager, aborted, with an empty log. -/
def rollback (m : TxnManager) (id : Nat) : Except Fault (TxnManager × Transaction) := do
  let t ← m.get id
  let t ← t.rollback
  return (m.drop id, t)

/-- The number of active transactions. -/
def activeCount (m : TxnManager) : Nat := m.live.length

end TxnManager

end ScopedWork

import ScopedWork.Store.Change

/-!
# Transactions

A transaction has an id, an isolation level, a state and a change log. It records changes
and ends once, by commit or by rollback; a rollback empties the log. Every operation on a
transaction that has ended fails and changes nothing.

Transaction ids are shown as `txn_<n>`. The isolation level a transaction is begun with is
recorded and reported back; it does not change what a transaction sees.
-/

namespace ScopedWork

/-- The SQL isolation levels, plus snapshot isolation. -/
inductive Isolation where
  | readUncommitted
  | readCommitted
  | repeatableRead
  | serializable
  | snapshot
  deriving Repr, DecidableEq, Inhabited

namespace Isolation

/-- The level as SQL writes it. -/
def display : Isolation → String
  | readUncommitted => "READ UNCOMMITTED"
  | readCommitted => "READ COMMITTED"
  | repeatableRead => "REPEATABLE READ"
  | serializable => "SERIALIZABLE"
  | snapshot => "SNAPSHOT"

/-- The identifier a configuration or script names the level by. -/
def name : Isolation → String
  | readUncommitted => "ReadUncommitted"
  | readCommitted => "ReadCommitted"
  | repeatableRead => "RepeatableRead"
  | serializable => "Serializable"
  | snapshot => "Snapshot"

/-- All levels, in declaration order. -/
def all : List Isolation :=
  [readUncommitted, readCommitted, repeatableRead, serializable, snapshot]

/-- The level with the given identifier. -/
def ofName? (s : String) : Option Isolation := all.find? (·.name == s)

end Isolation

/-- The text of a transaction id. -/
def txnText (id : Nat) : String := "txn_" ++ toString id

/-- Where a transaction is in its life. -/
inductive TxnState where
  | active
  | committed
  | aborted
  deriving Repr, DecidableEq, Inhabited

namespace TxnState

def display : TxnState → String
  | active => "ACTIVE"
  | committed => "COMMITTED"
  | aborted => "ABORTED"

def name : TxnState → String
  | active => "Active"
  | committed => "Committed"
  | aborted => "Aborted"

def isActive : TxnState → Bool
  | active => true
  | _ => false

def isTerminal (s : TxnState) : Bool := !s.isActive

def ofName? : String → Option TxnState
  | "Active" => some active
  | "Committed" => some committed
  | "Aborted" => some aborted
  | _ => none

end TxnState

/-- A transaction and its change log, oldest change first. -/
structure Transaction where
  id : Nat
  isolation : Option Isolation
  state : TxnState := .active
  log : List Change := []
  deriving Repr, Inhabited

namespace Transaction

/-- Append a change to the log of an active transaction. -/
def record (t : Transaction) (c : Change) : Except Fault Transaction :=
  if t.state.isActive then .ok { t with log := t.log ++ [c] }
  else .error (.execution ("Cannot record change: transaction " ++ txnText t.id ++ " is " ++
    t.state.display))

/-- End an active transaction as committed, keeping its log. -/
def commit (t : Transaction) : Except Fault Transaction :=
  if t.state.isActive then .ok { t with state := .committed }
  else .error (.execution ("Cannot commit: transaction " ++ txnText t.id ++ " is already " ++
    t.state.display))

/-- End an active transaction as aborted, emptying its log. -/
def rollback (t : Transaction) : Except Fault Transaction :=
  if t.state.isActive then .ok { t with state := .aborted, log := [] }
  else .error (.execution ("Cannot rollback: transaction " ++ txnText t.id ++ " is already " ++
    t.state.display))

end Transaction

end ScopedWork

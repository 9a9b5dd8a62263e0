import ScopedWork.Store.Manager

/-!
# The in-memory database

Committed tables, the active transactions, and three testing knobs: how many of the next
transaction starts fail with a reset connection, whether the next commit loses its
connection before or after applying, and whether contexts accept interceptors.

A transaction sees the committed tables with its own log applied on top (`view`). A write
is checked against that view first and recorded only if every change applies. A commit
replays the log on the committed tables as they are now and installs the result only if
every change still applies; otherwise the transaction is rolled back and the tables stay
as they were. `applied` lists every batch of changes that reached the tables, in order, so
that the tables are always the replay of `applied` from empty tables, and `history` lists
every transaction event in order.
-/

namespace ScopedWork

/-- When an injected commit failure strikes. -/
inductive CommitFault where
  /-- The connection is lost before the log is applied: nothing is committed. -/
  | beforeApply
  /-- The connection is lost after the log was applied: the commit did happen. -/
  | afterApply
  deriving Repr, DecidableEq

/-- Something that happened to a transaction of the database. -/
inductive TxnEvent where
  | began (id : Nat)
  | wrote (id : Nat) (changes : List Change)
  | committed (id : Nat)
  | rolledBack (id : Nat)
  deriving Repr, DecidableEq

/-- The state of the in-memory database. -/
structure Database where
  tables : Tables := []
  txns : TxnManager := {}
  interceptable : Bool := true
  commitFault : Option CommitFault := none
  transientFaults : Nat := 0
  started : Nat := 0
  applied : List (List Change) := []
  history : List TxnEvent := []
  deriving Repr, Inhabited

namespace Database

/-- A database operation: it may fail, and keeps what it changed before failing. -/
abbrev Step (α : Type) := ExceptT Fault (StateM Database) α

/-- Fail with the fault of an `Except`, or go on with its value. -/
def lift {α : Type} : Except Fault α → Step α
  | .ok a => pure a
  | .error e => throw e

/-- Begin a transaction. An injected fault is used up first and begins nothing. -/
def begin (isolation : Option Isolation) : Step Nat := do
  let db ← get
  if 0 < db.transientFaults then
    set { db with transientFaults := db.transientFaults - 1 }
    throw (.transient "The connection was reset while starting a transaction")
  let (m, id) := db.txns.begin isolation
  set { db with txns := m, started := db.started + 1, history := db.history ++ [TxnEvent.began id] }
  return id

/-- The tables as a transaction sees them: committed rows with its log applied. -/
def view (txn : Option Nat) : Step Tables := do
  let db ← get
  match txn with
  | none => return db.tables
  | some id =>
    let cs ← lift (db.txns.changes id)
    let (ts, _) ← lift (Change.applyAll cs db.tables)
    return ts

/-- Record changes in a transaction if all of them apply to its view; the number of rows
they affect. -/
def write (id : Nat) (cs : List Change) : Step Nat := do
  let v ← view (some id)
  let (_, n) ← lift (Change.applyAll cs v)
  let db ← get
  let m ← lift (cs.foldlM (fun m c => m.record id c) db.txns)
  set { db with txns := m, history := db.history ++ [TxnEvent.wrote id cs] }
  return n

/-- Roll back a transaction. -/
def rollback (id : Nat) : Step Unit := do
  let db ← get
  let (m, _) ← lift (db.txns.rollback id)
  set { db with txns := m, history := db.history ++ [TxnEvent.rolledBack id] }

/-- Commit a transaction: replay its log on the committed tables and install the result,
or roll it back when a change no longer applies. -/
def commit (id : Nat) : Step Unit := do
  let db ← get
  let failure := db.commitFault
  set { db with commitFault := none }
  if failure == some .beforeApply then
    rollback id
    throw (.transient "The connection was lost before the commit completed")
  let db ← get
  let cs ← lift (db.txns.changes id)
  match Change.applyAll cs db.tables with
  | .error e =>
    rollback id
    throw e
  | .ok (staged, _) =>
    let (m, _) ← lift (db.txns.commit id)
    set { db with txns := m, tables := staged, applied := db.applied ++ [cs],
                  history := db.history ++ [TxnEvent.committed id] }
    if failure == some .afterApply then
      throw (.transient "The connection was lost while the commit was acknowledged")

/-- Insert a row directly into the committed tables. -/
def seed (table : String) (id : Int) (value : Value) : Step Unit := do
  let db ← get
  let c := Change.insert table id value
  let (ts, _) ← lift (c.apply db.tables)
  set { db with tables := ts, applied := db.applied ++ [[c]] }

/-- The isolation level of an active transaction. -/
def isolation (db : Database) (id : Nat) : Option Isolation := db.txns.isolation id

/-- The number of committed rows of a table. -/
def rowCount (db : Database) (table : String) : Nat := db.tables.count table

/-- The committed row under a key. -/
def row? (db : Database) (k : Key) : Option Row := db.tables.get? k

/-- The number of active transactions. -/
def activeCount (db : Database) : Nat := db.txns.activeCount

end Database

end ScopedWork

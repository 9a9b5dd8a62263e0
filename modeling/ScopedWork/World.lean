import ScopedWork.Store.Database
import ScopedWork.Tracker
import ScopedWork.Ambient

/-!
# The world

Everything with an identity lives in one record, in tables indexed by id: contexts, units
of work, their observers, ambient chain entries, execution scopes, cancellation tokens,
context factories, providers and fixed accessors. Two handles are the same object exactly
when they carry the same id.

Operations run in `Act σ`: they read and change the world (and the host program's own
state `σ`), and may fail; what they changed before failing stays changed.

The host program takes part through `Hooks σ`: its interceptors (registered with contexts
next to the observers of units of work) and the listeners it registers with observers. A
notification hook cannot fail, so it runs in `Run σ`.
-/

namespace ScopedWork

/-- An interceptor registered with a context. -/
inductive Interceptor where
  /-- The observer of a unit of work. -/
  | observer (id : Nat)
  /-- One of the host program's interceptors. -/
  | host (id : Nat)
  deriving Repr, DecidableEq

/-- A context: its connection's transaction, its tracker, its interceptors in registration
order, and how often its connection was closed. -/
structure ContextState where
  txn : Option Nat := none
  tracker : Tracker := {}
  interceptors : List Interceptor := []
  closes : Nat := 0
  deriving Repr, Inhabited

/-- The observer a unit of work attaches to its context. -/
structure ObserverState where
  unit : Nat
  autoFlush : AutoFlush
  avoidCommitRetries : Bool
  startListeners : List Nat := []
  commandListeners : List Nat := []
  /-- The unit of work was invalidated by an aborted scope. -/
  aborted : Bool := false
  saving : Bool := false
  explicitChanges : Bool := false
  flushEnabled : Bool := false
  deriving Repr, Inhabited

/-- The exclusive lock of a unit of work. -/
inductive LockState where
  | free
  | held
  | disposed
  deriving Repr, DecidableEq, Inhabited

/-- How a unit of work is driven: by hand, or by scoped execution (one way only). -/
inductive UnitMode where
  | manual
  | scopedExecution
  deriving Repr, DecidableEq, Inhabited

namespace UnitMode

def display : UnitMode → String
  | manual => "MANUAL"
  | scopedExecution => "SCOPED_EXECUTION"

def name : UnitMode → String
  | manual => "Manual"
  | scopedExecution => "ScopedExecution"

def ofName? : String → Option UnitMode
  | "Manual" => some manual
  | "ScopedExecution" => some scopedExecution
  | _ => none

end UnitMode

/-- A unit of work: a lazily created context and observer, shared by every scope that
joins it. -/
structure UnitState where
  factory : Nat
  options : Options
  context : Option Nat := none
  observer : Option Nat := none
  isolation : Option Isolation := none
  mode : UnitMode := .manual
  lock : LockState := .free
  deriving Repr, Inhabited

/-- The name of the type of units of work, by which the ambient chain finds them. -/
def UnitState.typeName : String :=
  "dbscope::scope::unit_of_work::UnitOfWork<dbscope::memory::context::MemoryContext>"

/-- A context factory of the host program: at its `k`-th call, counting from zero, it refuses
with `answer k` if that is a fault, and otherwise creates a context on the database. It counts
what it created and how often it refused. -/
structure Factory where
  answer : Nat → Option Fault := fun _ => none
  created : Nat := 0
  refusals : Nat := 0
  deriving Inhabited

namespace Factory

/-- How often the factory was called. -/
def calls (fa : Factory) : Nat := fa.created + fa.refusals

/-- The fault the factory refuses its next call with, if it refuses it. -/
def next (fa : Factory) : Option Fault := fa.answer fa.calls

/-- The answers of a factory that creates `limit` contexts, or any number without a limit, and
refuses every later call with `refusal`. -/
def limited (limit : Option Nat) (refusal : Fault) (k : Nat) : Option Fault :=
  match limit with
  | some n => if n ≤ k then some refusal else none
  | none => none

end Factory

/-- An execution scope: one invocation of the work of a scoped execution. -/
structure ExecState where
  unit : Nat
  context : Nat
  nested : Bool
  token : Nat
  completed : Bool := true
  disposed : Bool := false
  deriving Repr, Inhabited

/-- A provider that makes the first execution of each unit of work fail with a simulated
conflict. It remembers only the last unit of work it saw. -/
structure ConflictSim where
  afterCommit : Bool
  lastSeen : Option Nat := none
  deriving Repr, Inhabited

/-- A provider: its factory and options, and the conflict simulation if it has one. -/
structure Provider where
  factory : Nat
  options : Options
  conflict : Option ConflictSim := none
  deriving Repr, Inhabited

/-- An accessor that creates one context of its own on first use. -/
structure AccessorState where
  factory : Nat
  context : Option Nat := none
  deriving Repr, Inhabited

/-- All objects and the database. -/
structure World where
  db : Database := {}
  contexts : Array ContextState := #[]
  units : Array UnitState := #[]
  observers : Array ObserverState := #[]
  nodes : Array Node := #[]
  /-- The chain of the thread. -/
  thread : Chain := {}
  /-- The chain of the asynchronous flow that is running, if one is. -/
  flow : Option Chain := none
  execs : Array ExecState := #[]
  /-- Cancellation tokens: whether each was cancelled. -/
  tokens : Array Bool := #[]
  /-- Tasks spawned to cancel a token, run at the next suspension. -/
  spawned : List Nat := []
  factories : Array Factory := #[]
  providers : Array Provider := #[]
  accessors : Array AccessorState := #[]
  deriving Inhabited

/-- The world and the host program's own state. -/
structure Sys (σ : Type) where
  world : World
  host : σ

/-- An operation that may fail; changes made before a failure stay. -/
abbrev Act (σ : Type) := EStateM Fault (Sys σ)

/-- An operation that cannot fail. -/
abbrev Run (σ : Type) := StateM (Sys σ)

/-- What a context knows when it asks its interceptors about a command. -/
structure Probe where
  pending : Bool
  txn : Option Nat
  deriving Repr

/-- A hook of a host interceptor that may refuse the operation. -/
inductive Guard where
  | transactionStarting
  | commandCreating
  | readerExecuting (probe : Probe)
  | savingChanges
  deriving Repr

/-- A hook of a host interceptor that only takes note. -/
inductive Notice where
  | savedChanges (affected : Nat)
  | saveFailed
  | entityTracked (fromQuery : Bool)
  | stateChanged (state : EntityState)
  deriving Repr

/-- The transaction operation that failed. -/
inductive TxnAction where
  | begin
  | commit
  | rollback
  deriving Repr, DecidableEq

def TxnAction.name : TxnAction → String
  | begin => "Begin"
  | commit => "Commit"
  | rollback => "Rollback"

/-- Whether a raw command must join a transaction that its hooks started. -/
inductive Enlistment where
  | unchanged
  | reenlist
  deriving Repr, DecidableEq

/-- The host program's part: its interceptors (by id) and its observer listeners (by id). -/
structure Hooks (σ : Type) where
  guard : Nat → Guard → Act σ Unit
  enlist : Nat → Probe → Act σ Enlistment
  /-- Given the fault of a failed transaction operation, the fault to report instead. -/
  failed : Nat → TxnAction → Fault → Run σ Fault
  notice : Nat → Notice → Run σ Unit
  listen : Nat → Act σ Unit

namespace Act

variable {σ : Type}

/-- Run an operation that cannot fail. -/
def ofRun {α : Type} (x : Run σ α) : Act σ α := fun s =>
  let (a, s') := x.run s
  .ok a s'

/-- The world. -/
def world : Act σ World := fun s => .ok s.world s

/-- Change the world. -/
def modifyWorld (f : World → World) : Act σ Unit := fun s =>
  .ok () { s with world := f s.world }

/-- Run an operation and hand back its outcome, failure included, without failing. -/
def outcome {α : Type} (x : Act σ α) : Act σ (Except Fault α) := fun s =>
  match x s with
  | .ok a s' => .ok (.ok a) s'
  | .error e s' => .ok (.error e) s'

/-- Fail with the fault of an outcome, or go on with its value. -/
def ofExcept {α : Type} : Except Fault α → Act σ α
  | .ok a => pure a
  | .error e => throw e

/-- The host program's state. -/
def host : Act σ σ := fun s => .ok s.host s

/-- Change the host program's state. -/
def modifyHost (f : σ → σ) : Act σ Unit := fun s =>
  .ok () { s with host := f s.host }

/-- Run a database step on the world's database. -/
def database {α : Type} (x : Database.Step α) : Act σ α := fun s =>
  match (x.run).run s.world.db with
  | (.ok a, db) => .ok a { s with world := { s.world with db } }
  | (.error e, db) => .error e { s with world := { s.world with db } }

end Act

namespace Run

variable {σ : Type}

def world : Run σ World := fun s => (s.world, s)

def modifyWorld (f : World → World) : Run σ Unit := fun s =>
  ((), { s with world := f s.world })

/-- Run an operation, dropping its failure; what it changed stays. -/
def ignoring (x : Act σ Unit) : Run σ Unit := fun s =>
  match x s with
  | .ok () s' => ((), s')
  | .error _ s' => ((), s')

/-- Run an operation that gives a fault, taking `fallback` if it fails instead. -/
def orElse (x : Act σ Fault) (fallback : Fault) : Run σ Fault := fun s =>
  match x s with
  | .ok e s' => (e, s')
  | .error _ s' => (fallback, s')

end Run

namespace World

def context (w : World) (id : Nat) : ContextState := w.contexts.getD id default

def setContext (w : World) (id : Nat) (c : ContextState) : World :=
  { w with contexts := w.contexts.modify id (fun _ => c) }

def unit (w : World) (id : Nat) : UnitState := w.units.getD id default

def setUnit (w : World) (id : Nat) (u : UnitState) : World :=
  { w with units := w.units.modify id (fun _ => u) }

def observer (w : World) (id : Nat) : ObserverState := w.observers.getD id default

def setObserver (w : World) (id : Nat) (o : ObserverState) : World :=
  { w with observers := w.observers.modify id (fun _ => o) }

def exec (w : World) (id : Nat) : ExecState := w.execs.getD id default

def setExec (w : World) (id : Nat) (e : ExecState) : World :=
  { w with execs := w.execs.modify id (fun _ => e) }

def factory (w : World) (id : Nat) : Factory := w.factories.getD id default

def setFactory (w : World) (id : Nat) (f : Factory) : World :=
  { w with factories := w.factories.modify id (fun _ => f) }

def provider (w : World) (id : Nat) : Provider := w.providers.getD id default

def setProvider (w : World) (id : Nat) (p : Provider) : World :=
  { w with providers := w.providers.modify id (fun _ => p) }

def accessor (w : World) (id : Nat) : AccessorState := w.accessors.getD id default

def setAccessor (w : World) (id : Nat) (a : AccessorState) : World :=
  { w with accessors := w.accessors.modify id (fun _ => a) }

/-- Whether a token was cancelled. -/
def cancelled (w : World) (token : Nat) : Bool := w.tokens.getD token false

/-- Cancel a token. -/
def cancel (w : World) (token : Nat) : World :=
  { w with tokens := w.tokens.modify token (fun _ => true) }

/-- The chain that scopes are pushed onto now: the running flow's, else the thread's. -/
def chain (w : World) : Chain := w.flow.getD w.thread

def setChain (w : World) (c : Chain) : World :=
  match w.flow with
  | some _ => { w with flow := some c }
  | none => { w with thread := c }

/-- The ambient unit of work. -/
def ambient (w : World) : Option Nat := w.chain.current w.nodes UnitState.typeName

end World

end ScopedWork

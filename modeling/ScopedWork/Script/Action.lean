import ScopedWork.Script.Planned

/-!
# Scripts: actions

A program is a list of steps `{"do": name, ...}`. Most actions work on one target: a
context, a unit of work, the execution scope of the work they run in, or the database. The
target is found first, then the fields the action needs are read, so a step whose target
cannot be found fails, or is refused, before its other fields are looked at.

Steps are read only when they run, and the fields of a hook (what a recording interceptor
does for an event, what a listener runs and when it fails) only when the hook fires: a
step or field that is never reached is never read.
-/

namespace ScopedWork

namespace Script

/-- A reference to a context. -/
inductive ContextRef where
  /-- The context of the execution scope of the work. -/
  | scope
  /-- The context of the ambient unit of work. -/
  | ambient
  /-- The context of the ambient unit of work, through an accessor. -/
  | accessor
  /-- The context of a manual scope. -/
  | manual (name : String)
  /-- The context of a fixed accessor. -/
  | fixed (name : String)
  /-- A context of the database of its own, created on first use. -/
  | standalone (name : String)
  deriving Repr, Inhabited

/-- The text after a prefix, if the text starts with it. -/
def afterPrefix (pre s : String) : Option String :=
  if s.startsWith pre then some (String.ofList (s.toList.drop pre.length)) else none

/-- A context reference: `$scope`, `$ambient`, `$accessor`, `$manual:NAME`, `$fixed:NAME`,
or a name without `$` for a standalone context. -/
def ContextRef.read (s : String) : Reading ContextRef :=
  match s with
  | "$scope" => .ok .scope
  | "$ambient" => .ok .ambient
  | "$accessor" => .ok .accessor
  | _ =>
    match afterPrefix "$manual:" s, afterPrefix "$fixed:" s with
    | some n, _ => .ok (.manual n)
    | none, some n => .ok (.fixed n)
    | none, none =>
      if s.startsWith "$" then .error ("bad context reference '" ++ s ++ "'")
      else .ok (.standalone s)

/-- The context reference under `k`; none when the field is not a text. -/
def contextRefField (d : Doc) (k : String) : Reading (Option ContextRef) :=
  match d.get? k with
  | some (.str s) => some <$> ContextRef.read s
  | _ => .ok none

/-- A reference to a unit of work. -/
inductive UnitRef where
  | ambient
  | manual (name : String)
  deriving Repr, Inhabited

/-- A unit-of-work reference: `$ambient` or `$manual:NAME`. -/
def UnitRef.read (s : String) : Reading UnitRef :=
  if s == "$ambient" then .ok .ambient
  else match afterPrefix "$manual:" s with
    | some n => .ok (.manual n)
    | none => .error ("bad unit of work reference '" ++ s ++ "'")

/-- The unit-of-work reference under `k`; the ambient one when the field is not a text. -/
def unitRefField (d : Doc) (k : String) : Reading UnitRef :=
  match d.get? k with
  | some (.str s) => UnitRef.read s
  | _ => .ok .ambient

/-- Which observer listeners a listener joins. -/
inductive ListenKind where
  | start
  | command
  deriving Repr, DecidableEq

def ListenKind.ofName? : String → Option ListenKind
  | "start" => some start
  | "command" => some command
  | _ => none

/-- An operation on a context. -/
inductive ContextOp where
  | add (k : Key) (v : Value)
  | update (k : Key) (v : Value)
  | modifyUntracked (k : Key) (v : Value)
  | remove (k : Key)
  | find (k : Key)
  | count (table : String)
  | raw (c : Change)
  | save
  | begin (iso : Option Isolation)
  | commit
  | rollback
  | close
  | clearTracked
  | hasPending
  | hasTxn
  | txn
  | isolation
  | trackedCount
  | closes
  | sameAs (other : ContextRef)
  /-- Register a recording interceptor; `spec` is the step, read when its hooks fire. -/
  | addRecorder (name : String) (spec : Doc)
  | removeRecorder (name : String)

/-- An operation on a unit of work or its observer. -/
inductive UnitOp where
  | tryStart
  | tryCommit
  | tryRollback
  | tryRollbackInvalidate
  | undoInvalidation
  | isInvalidated
  | isDisposed
  | mode
  | promote (target : UnitMode)
  | isolation
  | setIsolation (level : Option Isolation)
  | dispose
  /-- Compare the context with the one `ctx_ref` names; the reference is read once the
  unit's own context is known. -/
  | contextIs (spec : Doc)
  | sameAs (other : UnitRef)
  | observer
  | isSaving
  | isAborted
  /-- Register a listener; `spec` is the step. Its name and kind are read once the observer
  is known, the rest when the listener is called. -/
  | listen (spec : Doc)

/-- An operation on the execution scope of the work. -/
inductive ScopeOp where
  | abort
  | isCompleted
  | isNested
  | isCancelled
  | state
  | isolation
  | setIsolation (level : Option Isolation)
  | cancel
  | spawnCancel
  | yield
  deriving Repr

/-- An operation on the database itself. -/
inductive DatabaseOp where
  | seed (k : Key) (v : Value)
  | injectCommitFailure (fault : CommitFault)
  | injectFaults (count : Nat)
  | rowCount (table : String)
  | get (k : Key)
  | version (k : Key)
  | started
  | active
  | dump
  deriving Repr

/-- The actions on a context. -/
def contextActions : List String :=
  ["add", "update", "modify_untracked", "remove", "find", "count", "raw", "save", "begin",
    "commit", "rollback", "close", "clear_tracked", "has_pending", "has_tx", "tx",
    "isolation", "tracked_count", "connection_closes", "same_ctx", "add_recorder",
    "remove_recorder"]

/-- Whether an action is one on a unit of work or its observer: its name starts with
`uow_` or `obs_`. -/
def unitAction (name : String) : Bool :=
  name.startsWith "uow_" || name.startsWith "obs_"

/-- The actions on the execution scope of the work. -/
def scopeActions : List String :=
  ["abort", "is_completed", "is_nested", "is_cancelled", "state", "scope_isolation",
    "scope_set_isolation", "cancel", "spawn_cancel", "yield"]

/-- The actions on the database. -/
def databaseActions : List String :=
  ["seed", "inject_commit_failure", "inject_faults", "row_count", "get", "version",
    "tx_started", "tx_active", "dump"]

end Script

end ScopedWork

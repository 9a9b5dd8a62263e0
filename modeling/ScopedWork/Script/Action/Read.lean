import ScopedWork.Script.Action

/-!
# Scripts: reading the fields of actions

Once an action's target is found, the fields it needs are read, in the order it needs
them. Keys are a `table` text and an `id` that fits in 64 bits signed; values, changes and
faults are read as the codecs say.
-/

namespace ScopedWork

namespace Script

/-- The key of an entity: its `table` and `id` fields. -/
def keyField (d : Doc) : Reading Key := do
  return (← textField d "table", ← i64Field d "id")

/-- The `value` field. -/
def valueField (d : Doc) : Reading Value := do
  Value.read (← need d "value")

/-- An isolation level or null, under `level`. -/
def levelField (d : Doc) : Reading (Option Isolation) := isolationField d "level"

/-- The nesting option under `option`, if the field is there: it must name one. -/
def optionField (d : Doc) : Reading (Option ScopeOption) :=
  match d.get? "option" with
  | none => .ok none
  | some v => match v.str? >>= ScopeOption.ofName? with
    | some o => .ok (some o)
    | none => .error "bad scope option"

/-- Whether a provider simulates conflicts, and when: its `conflict` flag, then, for one
that does, its `after_commit` flag. -/
def conflictField (d : Doc) : Reading (Option ConflictSim) := do
  if ← flag d "conflict" then return some { afterCommit := ← flag d "after_commit" }
  else return none

/-- Read an action on a context. -/
def readContextOp (name : String) (d : Doc) : Reading ContextOp := do
  match name with
  | "add" => return .add (← keyField d) (← valueField d)
  | "update" => return .update (← keyField d) (← valueField d)
  | "modify_untracked" => return .modifyUntracked (← keyField d) (← valueField d)
  | "remove" => return .remove (← keyField d)
  | "find" => return .find (← keyField d)
  | "count" => return .count (← textField d "table")
  | "raw" => return .raw (← Change.read (← need d "change"))
  | "save" => return .save
  | "begin" => return .begin (← isolationField d "isolation")
  | "commit" => return .commit
  | "rollback" => return .rollback
  | "close" => return .close
  | "clear_tracked" => return .clearTracked
  | "has_pending" => return .hasPending
  | "has_tx" => return .hasTxn
  | "tx" => return .txn
  | "isolation" => return .isolation
  | "tracked_count" => return .trackedCount
  | "connection_closes" => return .closes
  | "same_ctx" => return .sameAs (← ContextRef.read (← textField d "other"))
  | "add_recorder" => return .addRecorder (← textField d "name") d
  | "remove_recorder" => return .removeRecorder (← textField d "name")
  | other => throw ("unknown action '" ++ other ++ "'")

/-- Read an action on a unit of work. -/
def readUnitOp (name : String) (d : Doc) : Reading UnitOp := do
  match name with
  | "uow_try_start" => return .tryStart
  | "uow_try_commit" => return .tryCommit
  | "uow_try_rollback" => return .tryRollback
  | "uow_try_rollback_invalidate" => return .tryRollbackInvalidate
  | "uow_undo_invalidation" => return .undoInvalidation
  | "uow_is_invalidated" => return .isInvalidated
  | "uow_is_disposed" => return .isDisposed
  | "uow_mode" => return .mode
  | "uow_promote" => return .promote (← modeField d "mode")
  | "uow_isolation" => return .isolation
  | "uow_set_isolation" => return .setIsolation (← levelField d)
  | "uow_dispose" => return .dispose
  | "uow_ctx_is" => return .contextIs d
  | "uow_same" => return .sameAs (← UnitRef.read (← textField d "other"))
  | "uow_observer" => return .observer
  | "obs_is_saving" => return .isSaving
  | "obs_is_aborted" => return .isAborted
  | "obs_listen" => return .listen d
  | other => throw ("unknown action '" ++ other ++ "'")

/-- Read an action on the execution scope. -/
def readScopeOp (name : String) (d : Doc) : Reading ScopeOp := do
  match name with
  | "abort" => return .abort
  | "is_completed" => return .isCompleted
  | "is_nested" => return .isNested
  | "is_cancelled" => return .isCancelled
  | "state" => return .state
  | "scope_isolation" => return .isolation
  | "scope_set_isolation" => return .setIsolation (← levelField d)
  | "cancel" => return .cancel
  | "spawn_cancel" => return .spawnCancel
  | "yield" => return .yield
  | other => throw ("unknown action '" ++ other ++ "'")

/-- Where an injected commit failure strikes. -/
def commitFaultOf? : String → Option CommitFault
  | "before" => some .beforeApply
  | "after" => some .afterApply
  | _ => none

/-- Read an action on the database. -/
def readDatabaseOp (name : String) (d : Doc) : Reading DatabaseOp := do
  match name with
  | "seed" => return .seed (← keyField d) (← valueField d)
  | "inject_commit_failure" =>
    return .injectCommitFailure (← enumField d "when" "bad commit failure" commitFaultOf?)
  | "inject_faults" => return .injectFaults (← u64Field d "count")
  | "row_count" => return .rowCount (← textField d "table")
  | "get" => return .get (← keyField d)
  | "version" => return .version (← keyField d)
  | "tx_started" => return .started
  | "tx_active" => return .active
  | "dump" => return .dump
  | other => throw ("unknown action '" ++ other ++ "'")

end Script

end ScopedWork

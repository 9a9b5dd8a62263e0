/-!
# Faults

Every failure of the library is a `Fault`. The kinds are those a caller can tell apart
(a transient failure may be retried, a concurrency conflict may be retried by the conflict
decorator, a commit failure never is); the text a caller reads is `Fault.message`.
-/

namespace ScopedWork

/-- A failure, by kind. Most kinds carry the text that explains them. -/
inductive Fault where
  | invalid (text : String)
  | unsupported (text : String)
  /-- The unit of work was invalidated by an aborted scope. -/
  | aborted
  | conflict (text : String)
  /-- The conflict decorator gave up after `attempts` attempts. -/
  | retryLimit (attempts : Nat) (source : Fault)
  /-- A commit failed; it may have succeeded, so it must not be retried. -/
  | commitFailed (source : Fault)
  | incompatible (text : String)
  | disposed (text : String)
  | lock (text : String)
  | transient (text : String)
  | constraint (text : String)
  | execution (text : String)
  | cancelled
  | multiple (faults : List Fault)
  /-- A caller's own failure, shown as its text alone. -/
  | other (text : String)
  deriving Repr, Inhabited

namespace Fault

mutual
/-- The text of a fault. -/
def message : Fault → String
  | invalid m => "Invalid operation: " ++ m
  | unsupported m => "Unsupported operation: " ++ m
  | aborted => "The transaction has been aborted. The unit of work was invalidated by an aborted scope"
  | conflict m => "Optimistic concurrency conflict: " ++ m
  | retryLimit n s =>
    "The retry limit was reached while retrying because of an optimistic concurrency conflict (" ++
      toString n ++ " attempts): " ++ s.message
  | commitFailed s =>
    "The operation failed on commit. Since it is possible that the commit succeeded, potential retries were avoided: " ++
      s.message
  | incompatible m => "Incompatible database context: " ++ m
  | disposed m => "Cannot access a disposed object: " ++ m
  | lock m => "Lock error: " ++ m
  | transient m => "Transient failure: " ++ m
  | constraint m => "Constraint violation: " ++ m
  | execution m => "Execution error: " ++ m
  | cancelled => "The operation was cancelled"
  | multiple fs => "Multiple errors occurred: " ++ joinMessages fs
  | other m => m

/-- The texts of several faults, separated by `"; "`. -/
def joinMessages : List Fault → String
  | [] => ""
  | [f] => f.message
  | f :: fs => f.message ++ "; " ++ joinMessages fs
end

/-- The name of the kind, as callers spell it. -/
def kindName : Fault → String
  | invalid _ => "InvalidOperation"
  | unsupported _ => "UnsupportedOperation"
  | aborted => "TransactionAborted"
  | conflict _ => "ConcurrencyConflict"
  | retryLimit _ _ => "RetryLimitExceeded"
  | commitFailed _ => "CommitFailed"
  | incompatible _ => "IncompatibleVersion"
  | disposed _ => "ObjectDisposed"
  | lock _ => "LockError"
  | transient _ => "Transient"
  | constraint _ => "ConstraintViolation"
  | execution _ => "ExecutionError"
  | cancelled => "Cancelled"
  | multiple _ => "Multiple"
  | other _ => "Other"

def isTransient : Fault → Bool
  | transient _ => true
  | _ => false

def isConflict : Fault → Bool
  | conflict _ => true
  | _ => false

def isCommitFailure : Fault → Bool
  | commitFailed _ => true
  | _ => false

def isCancelled : Fault → Bool
  | cancelled => true
  | _ => false

/-- The underlying fault of a commit failure or of an exhausted retry. -/
def source? : Fault → Option Fault
  | retryLimit _ s => some s
  | commitFailed s => some s
  | _ => none

/-- Several faults as one: none, the only one, or all of them together. -/
def aggregate : List Fault → Option Fault
  | [] => none
  | [f] => some f
  | fs => some (multiple fs)

end Fault

end ScopedWork

import ScopedWork.Fault
import ScopedWork.Options

/-!
# Execution strategies

A strategy runs an operation and decides, after each failure, whether to run it again.
Running once never retries. The transient strategy retries a transient failure up to the
policy's number of times, waiting a backoff between attempts. The conflict decorator runs
its inner strategy again after a concurrency conflict, at most twice over its whole life:
a third conflict ends in a retry-limit failure that counts the attempts.

The decorator's retry count is state that outlives a run, so a strategy is a shape and a
list of counts, one for each conflict decorator from the outside in.

Asynchronously, a strategy looks at the cancellation token before every attempt and
during every backoff, and a cancelled token ends the run as cancelled.
-/

namespace ScopedWork

/-- The shape of an execution strategy. -/
inductive Strategy where
  /-- Run once. -/
  | once
  /-- Retry transient failures as the policy says. -/
  | transient (policy : Policy)
  /-- Run the inner strategy again after a concurrency conflict. -/
  | onConflict (inner : Strategy)
  deriving Repr, DecidableEq

/-- How an asynchronous run sees its cancellation token and lets other tasks run. -/
structure Waiting (m : Type → Type) where
  cancelled : m Bool
  pause : m Unit

namespace Strategy

/-- The conflict decorator retries at most this often. -/
def conflictRetries : Nat := 2

/-- The strategy of a set of options: transient retries if they have a policy. -/
def ofOptions (o : Options) : Strategy :=
  match o.transientRetry with
  | some p => transient p
  | none => once

/-- The strategy of a root execution: that of the options, under the conflict decorator if
the options ask for it. -/
def forExecution (o : Options) : Strategy :=
  if o.retryOnConflict then onConflict (ofOptions o) else ofOptions o

/-- Fresh counts: zero for every conflict decorator. -/
def initial : Strategy → List Nat
  | once => []
  | transient _ => []
  | onConflict inner => 0 :: initial inner

/-- Whether a failure may still be followed by another attempt. -/
def retriesOnFailure : Strategy → List Nat → Bool
  | once, _ => false
  | transient p, _ => 0 < p.maxRetries
  | onConflict inner, counts =>
    retriesOnFailure inner counts.tail || counts.headD 0 < conflictRetries

/-- The retry count of the outer conflict decorator, if the strategy has one. -/
def retryCount? : Strategy → List Nat → Option Nat
  | onConflict _, counts => some (counts.headD 0)
  | _, _ => none

variable {m : Type → Type} [Monad m] {α : Type}

/-- Fail as cancelled if an asynchronous run's token is cancelled. -/
def cancelledNow : Option (Waiting m) → m Bool
  | some w => w.cancelled
  | none => pure false

/-- Run an operation, retrying a transient failure at most `budget` more times. -/
def retryTransient (wait : Option (Waiting m)) (attempt : m (Except Fault α)) :
    Nat → m (Except Fault α)
  | 0 => do
    if (← cancelledNow wait) then return .error .cancelled
    attempt
  | budget + 1 => do
    if (← cancelledNow wait) then return .error .cancelled
    match ← attempt with
    | .ok a => return .ok a
    | .error e =>
      if !e.isTransient then return .error e
      if (← cancelledNow wait) then return .error .cancelled
      if let some w := wait then w.pause
      retryTransient wait attempt budget

/-- Run the inner strategy until it ends without a conflict; `retries` is the decorator's
count, and `budget` the retries it has left. -/
def retryConflicts (runInner : List Nat → m (Except Fault α × List Nat)) :
    Nat → Nat → List Nat → m (Except Fault α × List Nat)
  | 0, retries, inner => do
    let (r, inner) ← runInner inner
    match r with
    | .error e =>
      if e.isConflict then return (.error (.retryLimit (retries + 1) e), retries :: inner)
      return (.error e, retries :: inner)
    | .ok a => return (.ok a, retries :: inner)
  | budget + 1, retries, inner => do
    let (r, inner) ← runInner inner
    match r with
    | .error e =>
      if e.isConflict then retryConflicts runInner budget (retries + 1) inner
      else return (.error e, retries :: inner)
    | .ok a => return (.ok a, retries :: inner)

/-- Run an operation under a strategy with its counts; the outcome and the counts after. -/
def run (wait : Option (Waiting m)) (attempt : m (Except Fault α)) :
    Strategy → List Nat → m (Except Fault α × List Nat)
  | once, counts => do
    if (← cancelledNow wait) then return (.error .cancelled, counts)
    return (← attempt, counts)
  | transient p, counts => do
    return (← retryTransient wait attempt p.maxRetries, counts)
  | onConflict inner, counts =>
    let retries := counts.headD 0
    retryConflicts (run wait attempt inner) (conflictRetries - retries) retries counts.tail

end Strategy

end ScopedWork

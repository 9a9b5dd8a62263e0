import ScopedWork.World

/-!
# Cancellation and suspension

Asynchronous operations run on a single-threaded runtime. The only other tasks are those
spawned to cancel a token; they run when the running operation suspends, all of them, in
the order they were spawned.

A database round trip checks its token, suspends, and checks again: a cancellation that
happens while it waits is seen.
-/

namespace ScopedWork

namespace Cancellation

variable {σ : Type}

/-- A new token, cancelled or not. -/
def freshToken (cancelled : Bool) : Act σ Nat := do
  let w ← Act.world
  Act.modifyWorld fun w => { w with tokens := w.tokens.push cancelled }
  return w.tokens.size

def isCancelled (token : Nat) : Act σ Bool := do
  return (← Act.world).cancelled token

def cancel (token : Nat) : Act σ Unit :=
  Act.modifyWorld fun w => w.cancel token

/-- Spawn a task that cancels a token when it gets to run. -/
def spawnCancel (token : Nat) : Act σ Unit :=
  Act.modifyWorld fun w => { w with spawned := w.spawned ++ [token] }

/-- Suspend: every spawned task runs. -/
def suspend : Act σ Unit :=
  Act.modifyWorld fun w => { (w.spawned.foldl World.cancel w) with spawned := [] }

/-- Fail with `cancelled` if the token is cancelled. -/
def check (token : Nat) : Act σ Unit := do
  if (← isCancelled token) then throw .cancelled

/-- Wait for the database: check, suspend, check. -/
def roundTrip (token : Nat) : Act σ Unit := do
  check token
  suspend
  check token

end Cancellation

/-- How an operation waits for the database: it blocks, or it suspends under a cancellation
token. -/
inductive Wait where
  | blocking
  | async (token : Nat)
  deriving Repr, DecidableEq

namespace Wait

variable {σ : Type}

/-- A round trip to the database; blocking, nothing can happen meanwhile. -/
def roundTrip : Wait → Act σ Unit
  | blocking => pure ()
  | async token => Cancellation.roundTrip token

/-- Let other tasks run, without looking at the token. -/
def pause : Wait → Act σ Unit
  | blocking => pure ()
  | async _ => Cancellation.suspend

end Wait

end ScopedWork

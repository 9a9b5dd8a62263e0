import ScopedWork.Context.Basic
import ScopedWork.Cancellation

/-!
# Units of work: lock, context, observer, mode and isolation

A unit of work creates its context on first use, and attaches its observer to that context
on first use; each at most once, whoever asks. Both creations hold the unit's exclusive
lock, and so do its transaction operations and its disposal: a re-entrant call made while
the lock is held (from a listener, say) fails with a lock error instead of interleaving.
Once disposed, the lock refuses everybody.

The mode moves from manual to scoped execution only. The isolation level is written once:
setting it again to another level fails.
-/

namespace ScopedWork

/-- The lock was taken while held. -/
def contendedFault : Fault :=
  .lock "The lock on UnitOfWork was contested. This may indicate parallel use of a type that does not support it."

/-- The unit of work was disposed. -/
def disposedFault : Fault := .disposed "UnitOfWork"

namespace UnitMode

/-- The mode after asking for `target`: staying is fine, and manual may become scoped. -/
def transition (current target : UnitMode) : Except Fault UnitMode :=
  if current = target then .ok target
  else match current, target with
    | .manual, .scopedExecution => .ok .scopedExecution
    | _, _ => .error (.unsupported ("Transitioning a unit of work from " ++ current.display ++
        " to " ++ target.display ++ " is not supported."))

end UnitMode

namespace Factory

variable {σ : Type}

/-- Create a context, unless the factory refuses this call. -/
def create (f : Nat) : Act σ Nat := do
  let fa := (← Act.world).factory f
  match fa.next with
  | some e =>
    Act.modifyWorld fun w => w.setFactory f { fa with refusals := fa.refusals + 1 }
    throw e
  | none =>
    Act.modifyWorld fun w => w.setFactory f { fa with created := fa.created + 1 }
    Context.create

/-- A new factory that answers its calls with `answer`. -/
def new (answer : Nat → Option Fault) : Act σ Nat := do
  let w ← Act.world
  Act.modifyWorld fun w => { w with factories := w.factories.push { answer } }
  return w.factories.size

end Factory

namespace UnitOfWork

variable {σ : Type}

def get (u : Nat) : Act σ UnitState := do
  return (← Act.world).unit u

def modify (u : Nat) (f : UnitState → UnitState) : Act σ Unit :=
  Act.modifyWorld fun w => w.setUnit u (f (w.unit u))

/-- A new unit of work, in manual mode. -/
def new (factory : Nat) (options : Options) : Act σ Nat := do
  let w ← Act.world
  Act.modifyWorld fun w => { w with units := w.units.push { factory, options } }
  return w.units.size

/-- Take the lock. -/
def acquire (u : Nat) : Act σ Unit := do
  match (← get u).lock with
  | .free => modify u fun x => { x with lock := .held }
  | .disposed => throw disposedFault
  | .held => throw contendedFault

/-- Release the lock. -/
def release (u : Nat) : Act σ Unit :=
  modify u fun x => { x with lock := .free }

/-- Run under the lock, releasing it whatever happens. -/
def locked {α : Type} (u : Nat) (body : Act σ α) : Act σ α := do
  acquire u
  let r ← Act.outcome body
  release u
  Act.ofExcept r

def isDisposed (u : Nat) : Act σ Bool := do
  return (← get u).lock == .disposed

/-- The unit's context, created on first use. -/
def context (u : Nat) : Act σ Nat := do
  match (← get u).context with
  | some c => return c
  | none =>
    locked u do
      match (← get u).context with
      | some c => return c
      | none =>
        let c ← Factory.create (← get u).factory
        modify u fun x => { x with context := some c }
        return c

/-- The unit's observer, attached to its context on first use. A context that refuses
interceptors cannot serve a unit of work. -/
def observer (u : Nat) : Act σ Nat := do
  match (← get u).observer with
  | some o => return o
  | none =>
    let c ← context u
    locked u do
      match (← get u).observer with
      | some o => return o
      | none =>
        let x ← get u
        let o := (← Act.world).observers.size
        match ← Act.outcome (Context.addInterceptor c (.observer o)) with
        | .error e =>
          throw (.incompatible ("the context of type dbscope::memory::context::MemoryContext does not accept interceptors: " ++
            e.message))
        | .ok () =>
          let ob : ObserverState :=
            { unit := u, autoFlush := x.options.autoFlush,
              avoidCommitRetries := x.options.avoidCommitRetries }
          Act.modifyWorld fun w => { w with observers := w.observers.push ob }
          modify u fun x => { x with observer := some o }
          return o

/-- Change an observer. -/
def modifyObserver (o : Nat) (f : ObserverState → ObserverState) : Act σ Unit :=
  Act.modifyWorld fun w => w.setObserver o (f (w.observer o))

/-- Move to a mode; refused once disposed. -/
def promote (u : Nat) (target : UnitMode) : Act σ Unit := do
  if (← isDisposed u) then throw disposedFault
  let m ← Act.ofExcept ((← get u).mode.transition target)
  modify u fun x => { x with mode := m }

def mode (u : Nat) : Act σ UnitMode := do
  return (← get u).mode

def isolation (u : Nat) : Act σ (Option Isolation) := do
  return (← get u).isolation

/-- Set the isolation level; once set it can only be set to itself. -/
def setIsolation (u : Nat) (level : Option Isolation) : Act σ Unit := do
  match (← get u).isolation with
  | some e =>
    if level != some e then
      let shown := match level with
        | some l => l.display
        | none => "none"
      throw (.invalid ("Attempted to set the isolation level to " ++ shown ++
        " when it was already set to " ++ e.display ++ "."))
  | none => pure ()
  modify u fun x => { x with isolation := level }

/-- Let queries flush pending changes, unless the unit's flush mode is off. -/
def enableAutoFlush (u : Nat) : Act σ Unit := do
  let o ← observer u
  modifyObserver o fun ob => if ob.autoFlush == .off then ob else { ob with flushEnabled := true }

/-- Mark the unit as invalidated by an aborted scope. -/
def invalidate (u : Nat) : Act σ Unit := do
  let o ← observer u
  modifyObserver o fun ob => { ob with aborted := true }

/-- Lift the invalidation. -/
def undoInvalidation (u : Nat) : Act σ Unit := do
  let o ← observer u
  modifyObserver o fun ob => { ob with aborted := false }

/-- Whether the unit is invalidated; a unit without an observer is not. -/
def isInvalidated (u : Nat) : Act σ Bool := do
  let w ← Act.world
  return match (w.unit u).observer with
    | some o => (w.observer o).aborted
    | none => false

/-- Refuse to start a transaction while an external one is open. -/
def ensureNoExternal : Act σ Unit := do
  if 0 < (← Act.world).chain.external then
    throw (.invalid "An ambient transaction has been detected. Scoped execution does not support ambient transactions.")

end UnitOfWork

end ScopedWork

import ScopedWork.Context.Query

/-!
# Scopes

A scope is an entry of the ambient chain for a value of some type. It either joins the
ambient value of that type or creates a value of its own (it is then its root), as its
nesting option says; a scope that refuses nesting fails when a value of its type is
ambient, and only a root calls the function that creates the value. Its entry is pushed
onto the chain that is current; deactivating the scope marks the entry, once.

A database scope is a scope for units of work: disposing it deactivates its entry and, the
first time and for a root, disposes the unit of work.

External transactions are counted on the current chain; the count never drops below zero.

Asynchronous scoped execution runs in a flow: a copy of the thread's chain that lives as
long as the execution, so the scopes it pushes are never seen from outside. An execution
that starts inside a flow stays in it.
-/

namespace ScopedWork

/-!
## Disposing a unit of work

A unit of work is disposed once: the first disposal takes the lock for good, and later ones
do nothing. Disposing while the lock is held fails. A unit that never created its context
has nothing more to do; otherwise its observer stops flushing and leaves the context, the
open transaction is rolled back, and the connection is closed. Each of these steps runs
even if an earlier one failed, and the failures are reported together.
-/

namespace UnitOfWork

variable {σ : Type}

/-- Run a step of a disposal, keeping its failure. -/
def collect (errors : List Fault) (step : Act σ Unit) : Act σ (List Fault) := do
  match ← Act.outcome step with
  | .ok () => return errors
  | .error e => return errors ++ [e]

/-- Dispose the unit of work; an asynchronous disposal waits before its rollback. -/
def dispose (h : Hooks σ) (u : Nat) (wait : Wait) : Act σ Unit := do
  let x ← get u
  match x.lock with
  | .held => throw contendedFault
  | .disposed => return ()
  | .free =>
    modify u fun x => { x with lock := .disposed, observer := none, context := none }
    match x.context with
    | none => return ()
    | some c =>
      let detached ← collect [] (match x.observer with
        | some o => do
          modifyObserver o fun ob => { ob with flushEnabled := false }
          Context.removeInterceptor c (.observer o)
        | none => pure ())
      let rolledBack ← collect detached (do
        if (← Context.hasTxn c) then Context.rollback h c wait)
      let closed ← collect rolledBack (Context.close c)
      match Fault.aggregate closed with
      | some e => throw e
      | none => pure ()

end UnitOfWork

/-- A scope: its entry in the ambient chain, the value the entry makes ambient, and whether
the scope created that value. A database scope's value is its unit of work. -/
structure Scope where
  node : Nat
  value : Nat
  root : Bool
  deriving Repr, DecidableEq, Inhabited

/-- A scope that refuses nesting was opened while a value of its type was ambient. -/
def nestingFault (kind : String) : Fault :=
  .invalid ("This operation does not support nesting, and it is already nested in a scope of type " ++
    kind ++ ".")

/-- No unit of work is ambient. -/
def noScopeFault : Fault :=
  .invalid "No scope for dbscope::memory::context::MemoryContext is ambient. Create a scope or run inside scoped execution."

namespace Ambient

variable {σ : Type}

/-- The ambient value of a type. -/
def current (kind : String) : Act σ (Option Nat) := do
  let w ← Act.world
  return w.chain.current w.nodes kind

/-- Push an entry for a value of type `kind` onto the current chain; the entry. -/
def push (kind : String) (value : Nat) : Act σ Nat := do
  let w ← Act.world
  let node := w.nodes.size
  let chain := w.chain
  Act.modifyWorld fun w =>
    ({ w with nodes := w.nodes.push { kind, value, parent := chain.head } }).setChain
      { chain with head := some node }
  return node

/-- Open a scope for a value of type `kind` with a nesting option: join the ambient value of
that type, or make one with `create`. -/
def activate (kind : String) (option : ScopeOption) (create : Act σ Nat) : Act σ Scope := do
  let (value, root) ← match option, ← current kind with
    | .noNesting, some _ => throw (nestingFault kind)
    | .joinExisting, some p => pure (p, false)
    | _, _ => do pure (← create, true)
  let node ← push kind value
  return { node, value, root }

end Ambient

namespace Scope

variable {σ : Type}

/-- Open a database scope with a nesting option; a new unit of work comes from `factory` and
`options`. -/
def activate (option : ScopeOption) (factory : Nat) (options : Options) : Act σ Scope :=
  Ambient.activate UnitState.typeName option (UnitOfWork.new factory options)

/-- Deactivate the scope's entry; whether this was the first time. -/
def deactivate (s : Scope) : Act σ Bool := do
  let w ← Act.world
  if (w.nodes.getD s.node default).disposed then return false
  Act.modifyWorld fun w =>
    let w := { w with nodes := w.nodes.modify s.node fun n => { n with disposed := true } }
    w.setChain (w.chain.popDead w.nodes)
  return true

/-- Dispose the database scope: deactivate it and, the first time and for a root, dispose its
unit of work. -/
def dispose (h : Hooks σ) (s : Scope) (wait : Wait) : Act σ Unit := do
  if (← deactivate s) && s.root then UnitOfWork.dispose h s.value wait

/-- Whether the scope was deactivated. -/
def isDisposed (s : Scope) : Act σ Bool := do
  return ((← Act.world).nodes.getD s.node default).disposed

end Scope

namespace Ambient

variable {σ : Type}

/-- The ambient unit of work. -/
def unit : Act σ Nat := do
  match (← Act.world).ambient with
  | some u => return u
  | none => throw noScopeFault

/-- Whether a unit of work is ambient. -/
def hasUnit : Act σ Bool := do
  return (← Act.world).ambient.isSome

/-- The ambient unit of work's context. -/
def context : Act σ Nat := do
  UnitOfWork.context (← unit)

/-- Enter an external transaction. -/
def enterExternal : Act σ Unit :=
  Act.modifyWorld fun w => w.setChain { w.chain with external := w.chain.external + 1 }

/-- Leave an external transaction. -/
def leaveExternal : Act σ Unit :=
  Act.modifyWorld fun w => w.setChain { w.chain with external := w.chain.external - 1 }

/-- Whether an external transaction is open. -/
def externalActive : Act σ Bool := do
  return 0 < (← Act.world).chain.external

/-- Run in a flow: a copy of the thread's chain, dropped at the end; inside a flow, in the
same flow. -/
def inFlow {α : Type} (body : Act σ α) : Act σ α := do
  match (← Act.world).flow with
  | some _ => body
  | none =>
    Act.modifyWorld fun w => { w with flow := some w.thread }
    let r ← Act.outcome body
    Act.modifyWorld fun w => { w with flow := none }
    Act.ofExcept r

end Ambient

end ScopedWork

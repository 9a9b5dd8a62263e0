import ScopedWork.Scope

/-!
# Providers and accessors

A provider holds a context factory and validated options; scoped execution and manual
scopes are opened through it. A provider may simulate a concurrency conflict: the first
execution it sees for a unit of work fails with a conflict after the work ran. It remembers
only the last unit of work it saw, so alternating units of work fail every time.

A fixed accessor hands out one context of its own, created on first use.
-/

namespace ScopedWork

/-- The conflict a provider simulates. -/
def simulatedConflict : Fault := .conflict "This is a simulated optimistic concurrency conflict."

namespace Provider

variable {σ : Type}

/-- A new provider, if its options are valid. -/
def create (factory : Nat) (options : Options) (conflict : Option ConflictSim) : Act σ Nat := do
  match options.validate with
  | .error msg => throw (.invalid ("Invalid scope options: " ++ msg))
  | .ok () => pure ()
  let w ← Act.world
  Act.modifyWorld fun w => { w with providers := w.providers.push { factory, options, conflict } }
  return w.providers.size

/-- Let a provider simulate conflicts from now on. -/
def simulateConflicts (p : Nat) (sim : ConflictSim) : Act σ Unit := do
  let pr := (← Act.world).provider p
  Act.modifyWorld fun w => w.setProvider p { pr with conflict := some sim }

/-- Open a scope through a provider, with its default nesting option unless one is given. -/
def openScope (p : Nat) (option : Option ScopeOption) : Act σ Scope := do
  let pr := (← Act.world).provider p
  Scope.activate (option.getD pr.options.defaultOption) pr.factory pr.options

/-- Whether the provider lets the execution of a unit of work fail with a simulated
conflict: the first time it sees that unit of work in a row. -/
def shouldFail (p u : Nat) : Act σ Bool := do
  let pr := (← Act.world).provider p
  match pr.conflict with
  | none => return false
  | some sim =>
    if sim.lastSeen == some u then return false
    Act.modifyWorld fun w =>
      w.setProvider p { pr with conflict := some { sim with lastSeen := some u } }
    return true

end Provider

namespace FixedAccessor

variable {σ : Type}

/-- A new fixed accessor over a factory. -/
def new (factory : Nat) : Act σ Nat := do
  let w ← Act.world
  Act.modifyWorld fun w => { w with accessors := w.accessors.push { factory } }
  return w.accessors.size

/-- The accessor's context, created on first use. -/
def context (a : Nat) : Act σ Nat := do
  let fa := (← Act.world).accessor a
  match fa.context with
  | some c => return c
  | none =>
    let c ← Factory.create fa.factory
    Act.modifyWorld fun w => w.setAccessor a { fa with context := some c }
    return c

end FixedAccessor

end ScopedWork

/-!
# Scope options

What a provider is configured with: when queries flush pending changes, which retry
strategy root executions use, how a new scope nests into an ambient one, and whether a
failed commit is reported as an uncertain outcome.

The transient retry policy waits `backoff` milliseconds before retry `n`: the base doubled
`n - 1` times by saturating 64-bit multiplication, capped after every doubling.
-/

namespace ScopedWork

/-- How a new scope relates to a scope that is already ambient. -/
inductive ScopeOption where
  /-- Share the ambient unit of work, or start one if there is none. -/
  | joinExisting
  /-- Always start a new unit of work. -/
  | forceCreateNew
  /-- Refuse to start when a unit of work is ambient. -/
  | noNesting
  deriving Repr, DecidableEq, Inhabited

namespace ScopeOption

def name : ScopeOption → String
  | joinExisting => "JoinExisting"
  | forceCreateNew => "ForceCreateNew"
  | noNesting => "NoNesting"

/-- Every option, in declaration order. -/
def all : List ScopeOption := [joinExisting, forceCreateNew, noNesting]

def ofName? : String → Option ScopeOption
  | "JoinExisting" => some joinExisting
  | "ForceCreateNew" => some forceCreateNew
  | "NoNesting" => some noNesting
  | _ => none

end ScopeOption

/-- When a query first saves the pending changes of its context. Ordered: each mode
detects what the one before it does, and more. -/
inductive AutoFlush where
  /-- Never. -/
  | off
  /-- After an explicit add, update or remove since the last save. -/
  | explicit
  /-- Also when change detection finds an implicit modification. -/
  | explicitAndImplicit
  deriving Repr, DecidableEq, Inhabited

namespace AutoFlush

/-- The position in the order `off < explicit < explicitAndImplicit`. -/
def rank : AutoFlush → Nat
  | off => 0
  | explicit => 1
  | explicitAndImplicit => 2

def name : AutoFlush → String
  | off => "None"
  | explicit => "DetectExplicitChanges"
  | explicitAndImplicit => "DetectExplicitAndImplicitChanges"

/-- Every mode, in declaration order. -/
def all : List AutoFlush := [off, explicit, explicitAndImplicit]

def ofName? : String → Option AutoFlush
  | "None" => some off
  | "DetectExplicitChanges" => some explicit
  | "DetectExplicitAndImplicitChanges" => some explicitAndImplicit
  | _ => none

end AutoFlush

/-- The largest value of a 64-bit unsigned word. -/
def wordMax : Nat := Nat.pow 2 64 - 1

/-- Retries after transient failures: how many, and the waits between them. -/
structure Policy where
  maxRetries : Nat := 3
  baseMs : Nat := 5
  maxMs : Nat := 100
  deriving Repr, DecidableEq, Inhabited

namespace Policy

/-- `2 * x` as a 64-bit unsigned word that saturates: the largest word when the product does
not fit. -/
def saturatingDouble (x : Nat) : Nat := min (2 * x) wordMax

/-- `x` doubled `k` times by saturating multiplication, capped at `cap` after each doubling.
A value at a cap that is a word stays there, so the loop stops early and a huge `k` costs
nothing. -/
def doubleCapped (cap : Nat) : Nat → Nat → Nat
  | 0, x => x
  | k + 1, x => if cap ≤ x then cap else doubleCapped cap k (min (saturatingDouble x) cap)

/-- The first wait: the base, at least 1 ms. -/
def firstMs (p : Policy) : Nat := max p.baseMs 1

/-- The longest wait: the maximum, at least the first wait. -/
def capMs (p : Policy) : Nat := max p.maxMs p.firstMs

/-- The wait before retry `attempt`: the first wait doubled `attempt - 1` times, capped at the
longest wait. -/
def backoff (p : Policy) (attempt : Nat) : Nat :=
  doubleCapped p.capMs (attempt - 1) p.firstMs

end Policy

/-- The configuration of a provider and of the units of work it creates. -/
structure Options where
  autoFlush : AutoFlush := .explicitAndImplicit
  retryOnConflict : Bool := false
  defaultOption : ScopeOption := .joinExisting
  avoidCommitRetries : Bool := true
  transientRetry : Option Policy := none
  deriving Repr, Inhabited

namespace Options

/-- The one consistency rule: the maximum wait may not be below the base wait. -/
def validate (o : Options) : Except String Unit :=
  match o.transientRetry with
  | some p =>
    if p.maxMs < p.baseMs then .error "max_backoff_ms cannot be lower than base_backoff_ms"
    else .ok ()
  | none => .ok ()

end Options

end ScopedWork

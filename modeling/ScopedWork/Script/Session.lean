import ScopedWork.Script.Action.Read

/-!
# Scripts: the state of a running program

A program keeps its trace (what every step and hook reported, in order), the interceptors
and listeners it registered, and the handles it holds by name: manual scopes, accessors,
external transactions, standalone contexts and providers. Names refer to the most recent
handle with that name.

A program that turns out not to be readable is refused: the first reason is kept, nothing
of the program runs any more, and the whole answer is the refusal. A name that refers to
no handle refuses the program with the text of a poisoned lock.

Transaction ids are reported by ordinal: the k-th id to appear in the trace is written `k`,
and a text that names an id with an ordinal names it as `txn_@k`.
-/

namespace ScopedWork

namespace Script

/-- A recording interceptor registered by a program; `spec` is its step, read when a hook
fires. -/
structure Recorder where
  name : String
  spec : Doc
  /-- How often each event has fired. -/
  calls : List (String × Nat) := []

/-- An observer listener registered by a program; `spec` is its step, read when it is
called. -/
structure Listener where
  name : String
  spec : Doc
  calls : Nat := 0

/-- The state of a running program. -/
structure Session where
  trace : Array Doc := #[]
  /-- Transaction ids, in the order they were first reported. -/
  ordinals : Array Nat := #[]
  recorders : Array Recorder := #[]
  listeners : Array Listener := #[]
  /-- How deeply hook steps are nested now. -/
  depth : Nat := 0
  scopes : List (String × Scope) := []
  accessors : List (String × Nat) := []
  externals : List String := []
  contexts : List (String × Nat) := []
  providers : List (String × Nat) := []
  /-- How often the work of each execution was invoked. -/
  invocations : Array Nat := #[]
  /-- Why the program is refused, once it is. -/
  refusal : Option String := none
  /-- Factories whose fault could not be read, with the reason: using one refuses the
  program. -/
  unreadable : List (Nat × String) := []

/-- Hook steps nest at most this deep. -/
def hookDepthLimit : Nat := 8

/-- The refusal of a program that names a handle it does not hold: the text of a lock
poisoned by the failed lookup. -/
def poisoned : String := "called `Result::unwrap()` on an `Err` value: PoisonError \x7b .. \x7d"

/-- A program's operations. -/
abbrev Prog := Act Session

namespace Session

/-- The handle with a name: the most recent one. -/
def lookup {α : Type} (handles : List (String × α)) (name : String) : Option α :=
  (handles.find? (·.1 == name)).map (·.2)

/-- Forget the most recent handle with a name. -/
def forget {α : Type} : List (String × α) → String → List (String × α)
  | [], _ => []
  | (k, v) :: rest, name => if k == name then rest else (k, v) :: forget rest name

end Session

namespace Prog

def session : Prog Session := Act.host

def modify (f : Session → Session) : Prog Unit := Act.modifyHost f

/-- Whether the program is refused. -/
def refused : Prog Bool := do return (← session).refusal.isSome

/-- Refuse the program, unless it is refused already, and stop. -/
def refuse {α : Type} (reason : String) : Prog α := do
  modify fun s => { s with refusal := s.refusal <|> some reason }
  throw (.other reason)

/-- The value of a reading, refusing the program if it cannot be read. -/
def read {α : Type} : Reading α → Prog α
  | .ok a => pure a
  | .error reason => refuse reason

/-- The handle a name refers to; a name that refers to none refuses the program. -/
def named {α : Type} (handles : List (String × α)) (name : String) : Prog α :=
  match Session.lookup handles name with
  | some a => pure a
  | none => refuse poisoned

/-- Refuse the program if a factory whose fault could not be read has refused. -/
def checkFactories : Prog Unit := do
  let w ← Act.world
  match (← session).unreadable.find? (fun (f, _) => 0 < (w.factory f).refusals) with
  | some (_, reason) => refuse reason
  | none => pure ()

/-- Append an entry to the trace. -/
def report (entry : Doc) : Prog Unit :=
  modify fun s => { s with trace := s.trace.push entry }

/-- The ordinal of a transaction id, given one now if it has none. -/
def ordinal (id : Nat) : Prog Nat := do
  let s ← session
  match s.ordinals.findIdx? (· == id) with
  | some i => return i + 1
  | none =>
    modify fun s => { s with ordinals := s.ordinals.push id }
    return s.ordinals.size + 1

/-- A transaction id as reported. -/
def txnDoc (id : Nat) : Prog Doc := do
  return .nat (← ordinal id)

/-- An optional transaction id as reported. -/
def txnOptionDoc : Option Nat → Prog Doc
  | some id => txnDoc id
  | none => pure .null

/-- A fault as reported: ids that have an ordinal are named by it. -/
def faultDoc (e : Fault) : Prog Doc := do
  let s ← session
  return e.toDocWith (renameTxns fun id => (s.ordinals.findIdx? (· == id)).map (· + 1))

/-- Report how a step ended: `{"do": label, "ok": v}` or the fault. -/
def reportStep (label : String) (r : Except Fault Doc) : Prog Unit := do
  match r with
  | .ok v => report (.obj [("do", .str label), ("ok", v)])
  | .error e =>
    let d ← faultDoc e
    report (match d with
      | .obj fs => .obj (("do", .str label) :: fs)
      | other => other)

end Prog

end Script

end ScopedWork

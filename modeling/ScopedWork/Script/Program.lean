import ScopedWork.Script.Interpreter

/-!
# Scripts: whole programs

A program runs against a fresh database, with the provider `p` made from its options (its
factory may refuse after a number of contexts, and the provider may simulate conflicts).
The setting `interceptors` counts only when it is a boolean; otherwise interceptors are
accepted.
After the steps, the manual scopes still held are dropped, newest first, and so are the
external transactions. The answer is the trace, the report of the database, and whether
nothing is left ambient.

The report lists every table that a step names and every row that a step names by table
and integer id.
-/

namespace ScopedWork

namespace Script

mutual
/-- The tables and keys a document names: every text `table` field of an object, and every
`table` with an integer `id` beside it. -/
def namesIn : Doc → List String × List Key
  | .obj fs =>
    let own : List String × List Key :=
      match ((Doc.obj fs).get? "table").bind Doc.str? with
      | some t => ([t], match ((Doc.obj fs).get? "id").bind Doc.i64? with
        | some i => [(t, i)]
        | none => [])
      | none => ([], [])
    let inner := namesInFields fs
    (own.1 ++ inner.1, own.2 ++ inner.2)
  | .arr xs => namesInItems xs
  | _ => ([], [])

def namesInItems : List Doc → List String × List Key
  | [] => ([], [])
  | x :: xs =>
    let a := namesIn x
    let b := namesInItems xs
    (a.1 ++ b.1, a.2 ++ b.2)

def namesInFields : List (String × Doc) → List String × List Key
  | [] => ([], [])
  | (_, x) :: fs =>
    let a := namesIn x
    let b := namesInFields fs
    (a.1 ++ b.1, a.2 ++ b.2)
end

/-- The report plan of a program's steps. -/
def planOf (steps : Doc) : DumpPlan :=
  let (tables, keys) := namesIn steps
  { tables := tables.eraseDups, keys }

/-- Set up the provider `p` from the program's options and factory; once it exists, the
program's conflict flags say whether it simulates conflicts. -/
def setup (d : Doc) (options : Options) : Prog Unit := do
  let f ← Prog.factory (Prog.factoryField d)
  match ← Act.outcome (Provider.create f options none) with
  | .ok p =>
    if let some sim ← Prog.read (conflictField d) then Provider.simulateConflicts p sim
    Prog.modify fun s => { s with providers := ("p", p) :: s.providers }
  | .error e => Prog.reportStep "provider" (.error e)

/-- Drop what the program still holds: its manual scopes, newest first, then its external
transactions. -/
def cleanup (h : Hooks Session) : Prog Unit := do
  let held := (← Prog.session).scopes
  for (_, s) in held do
    let _ ← Act.outcome (Scope.dispose h s .blocking)
  Prog.modify fun s => { s with scopes := [] }
  for _ in (← Prog.session).externals do
    Ambient.leaveExternal
  Prog.modify fun s => { s with externals := [] }

/-- Run a program: read its options, set up its provider, then read its steps, run them,
clean up, and answer the trace, the report of the database and whether nothing is left
ambient; or the refusal, if the program is refused. -/
def runProgram (d : Doc) : Reading Doc := do
  let options ← optionsOrDefault d
  let interceptable := switchOr d "interceptors" true
  let program : Prog (Doc × Bool) := do
    setup d options
    let steps ← Prog.read (listField d "steps")
    let stepsDoc := Doc.arr steps
    let plan := planOf stepsDoc
    let fuel := 10 * (stepsDoc.depth + 2)
    let h := hooks (Prog.hookSteps (Prog.run plan fuel))
    let _ ← Act.outcome (Prog.run plan fuel {} steps)
    let _ ← Act.outcome Prog.checkFactories
    cleanup h
    let w ← Act.world
    return (← Prog.dump plan, w.ambient.isNone && w.chain.external == 0)
  let start : Sys Session := { world := { db := { interceptable } }, host := {} }
  match EStateM.run program start with
  | .ok (dump, clean) s =>
    match s.host.refusal with
    | some reason => throw reason
    | none =>
      return .obj [("trace", .arr s.host.trace.toList), ("db", dump), ("ambient_clean", .bool clean)]
  | .error e s =>
    match s.host.refusal with
    | some reason => throw reason
    | none => return .obj [("trace", .arr s.host.trace.toList), ("error", .str e.message)]

end Script

end ScopedWork

import ScopedWork.Script.Program
import ScopedWork.Doc.Parse
import ScopedWork.Doc.Print

/-!
# Scripts: requests

A request is a line of JSON text holding a document whose `op` field names what is asked.
Every request has an answer, a line of JSON text; one that cannot be read is answered with
`{"error": "bad_input", "message": reason}`.
-/

namespace ScopedWork

namespace Script

/-- The answer to a request that can be read. -/
def respond (d : Doc) : Reading Doc := do
  let op ← textField d "op"
  match op with
  | "value" => describeValue d
  | "error" => describeFault d
  | "backoff" => describeBackoff d
  | "options" => describeOptions d
  | "isolation_display" =>
    let _ ← need d "level"
    match ← isolationField d "level" with
    | some i => return .str i.display
    | none => throw "called `Option::unwrap()` on a `None` value"
  | "mode_transition" => describeTransition d
  | "entity_state" =>
    let s ← enumField d "state" "bad entity state" EntityState.ofName?
    return .obj [("is_pending", .bool s.isPending)]
  | "txn_state" =>
    let s ← enumField d "state" "bad transaction state" TxnState.ofName?
    return .obj [("display", .str s.display), ("is_active", .bool s.isActive),
      ("is_terminal", .bool s.isTerminal)]
  | "txn_id" =>
    let id ← u64Field d "id"
    return .obj [("display", .str (txnText id)), ("as_u64", .nat id)]
  | "change" =>
    let c ← Change.read (← need d "change")
    return .obj [("table_name", .str c.table), ("change", c.toDoc)]
  | "transaction" => runTransaction d
  | "txm" => runManager d
  | "strategy" => runStrategy d
  | "program" => runProgram d
  | other => throw ("unknown op '" ++ other ++ "'")

/-- A refusal as an answer. -/
def refusal (reason : String) : Doc :=
  .obj [("error", .str "bad_input"), ("message", .str reason)]

/-- The answer to a request. -/
def answer (d : Doc) : Doc :=
  match respond d with
  | .ok a => a
  | .error reason => refusal reason

/-- The answer to a line of JSON text, as JSON text; text that is not JSON is refused. -/
def answerText (line : String) : String :=
  match Doc.parse line with
  | some d => (answer d).render
  | none => (refusal "invalid JSON").render

end Script

end ScopedWork

import ScopedWork.Execution
import ScopedWork.Script.Fields

/-!
# Scripts: reading and writing values, faults and changes

Requests and answers are documents. This module fixes how the library's values appear in
them.

* A value is written as itself, except a float, which is written as `{"float": text}` with
  the shortest text that reads back. A value is read from null, a boolean, an integer that
  fits in 64 bits signed, a text, a float, or `{"float": x}` where `x` is a number or a
  float literal.
* A fault is read from `{"kind": K, "message": m}` and its nested forms, and written as
  `{"error": K, "message": text}`, with the inner fault of a commit failure or an
  exhausted retry, and the faults of a multiple failure, written out as well.
* A change is `{"kind": "insert" | "update" | "delete", "table", "id", ...}`.
-/

namespace ScopedWork

namespace Doc

mutual
/-- How deeply arrays and objects nest. -/
def depth : Doc → Nat
  | arr xs => depthItems xs + 1
  | obj fs => depthFields fs + 1
  | _ => 0

def depthItems : List Doc → Nat
  | [] => 0
  | x :: xs => max x.depth (depthItems xs)

def depthFields : List (String × Doc) → Nat
  | [] => 0
  | (_, x) :: fs => max x.depth (depthFields fs)
end

end Doc

namespace Value

open Script

/-- A float read from `{"float": x}`: a number, or a text naming a special value or
holding a float literal. -/
def readFloat : Doc → Reading Binary64
  | .num n => .ok n.toBinary64
  | .str "NaN" => .ok Binary64.nan
  | .str "inf" => .ok Binary64.infinity
  | .str "-inf" => .ok Binary64.negInfinity
  | .str "-0" => .ok Binary64.negZero
  | .str s => match Binary64.ofText? s with
    | some x => .ok x
    | none => .error "bad float string"
  | _ => .error "bad float"

/-- A value read from a document: an object must be `{"float": x}` and nothing more, and
an integer must fit in 64 bits signed. -/
def read : Doc → Reading Value
  | .null => .ok null
  | .bool b => .ok (boolean b)
  | .str s => .ok (text s)
  | .num (.pos n) => if n < Nat.pow 2 63 then .ok (integer n) else .error "integer out of i64 range"
  | .num (.neg i) => .ok (integer i)
  | .num (.float x) => .ok (float x)
  | .obj [("float", x)] => float <$> readFloat x
  | .obj _ => .error "bad value"
  | .arr _ => .error "bad value"

/-- A value written as a document. -/
def toDoc : Value → Doc
  | null => .null
  | boolean b => .bool b
  | integer i => .int i
  | text s => .str s
  | float x => .obj [("float", .str x.text)]

end Value

namespace Fault

open Script

/-- A fault read from a document; `fuel` bounds the nesting. -/
def readWith : Nat → Doc → Reading Fault
  | 0, _ => .error "error nested too deeply"
  | fuel + 1, d => do
    let kind ← textField d "kind"
    let message := ((d.get? "message").bind Doc.str?).getD ""
    match kind with
    | "InvalidOperation" => pure (invalid message)
    | "UnsupportedOperation" => pure (unsupported message)
    | "TransactionAborted" => pure aborted
    | "ConcurrencyConflict" => pure (conflict message)
    | "IncompatibleVersion" => pure (incompatible message)
    | "ObjectDisposed" => pure (disposed message)
    | "LockError" => pure (lock message)
    | "Transient" => pure (transient message)
    | "ConstraintViolation" => pure (constraint message)
    | "ExecutionError" => pure (execution message)
    | "Cancelled" => pure cancelled
    | "Other" => pure (other message)
    | "RetryLimitExceeded" =>
      let n ← u64Field d "attempts"
      let s ← readWith fuel (← need d "source")
      pure (retryLimit n s)
    | "CommitFailed" => do
      let s ← readWith fuel (← need d "source")
      pure (commitFailed s)
    | "Multiple" => do
      let es ← listField d "errors"
      let fs ← es.mapM (readWith fuel)
      pure (multiple fs)
    | _ => throw "bad error kind"

/-- A fault read from a document. -/
def read (d : Doc) : Reading Fault := readWith (d.depth + 1) d

mutual
/-- A fault written as an answer; `rename` rewrites its texts. -/
def toDocWith (rename : String → String) : Fault → Doc
  | retryLimit n s => .obj [("error", .str "RetryLimitExceeded"),
      ("message", .str (rename (retryLimit n s).message)), ("attempts", .nat n),
      ("inner", toDocWith rename s)]
  | commitFailed s => .obj [("error", .str "CommitFailed"),
      ("message", .str (rename (commitFailed s).message)), ("inner", toDocWith rename s)]
  | multiple fs => .obj [("error", .str "Multiple"),
      ("message", .str (rename (multiple fs).message)), ("errors", .arr (toDocsWith rename fs))]
  | f => .obj [("error", .str f.kindName), ("message", .str (rename f.message))]

def toDocsWith (rename : String → String) : List Fault → List Doc
  | [] => []
  | f :: fs => toDocWith rename f :: toDocsWith rename fs
end

/-- A fault written as an answer. -/
def toDoc (f : Fault) : Doc := toDocWith id f

end Fault

namespace Change

open Script

/-- The expected version of a change: unchecked when absent or null. -/
def readExpected (d : Doc) : Reading (Option Nat) :=
  match d.get? "expected_version" with
  | none => .ok none
  | some .null => .ok none
  | some v => match v.u64? with
    | some n => .ok (some n)
    | none => .error "bad expected_version"

/-- A change read from a document: its table, its id, then its kind and what the kind
needs. -/
def read (d : Doc) : Reading Change := do
  let table ← textField d "table"
  let id ← i64Field d "id"
  match ← textField d "kind" with
  | "insert" => return insert table id (← Value.read (← need d "value"))
  | "update" => return update table id (← Value.read (← need d "value")) (← readExpected d)
  | "delete" => return delete table id (← readExpected d)
  | _ => throw "bad change kind"

/-- A change written as a document; a missing expected version is written as null. -/
def toDoc : Change → Doc
  | insert t i v => .obj [("kind", .str "insert"), ("table", .str t), ("id", .int i),
      ("value", v.toDoc)]
  | update t i v e => .obj [("kind", .str "update"), ("table", .str t), ("id", .int i),
      ("value", v.toDoc), ("expected_version", Doc.ofOption Doc.nat e)]
  | delete t i e => .obj [("kind", .str "delete"), ("table", .str t), ("id", .int i),
      ("expected_version", Doc.ofOption Doc.nat e)]

end Change

end ScopedWork

import ScopedWork.Script.Fields
import ScopedWork.Text.Quoted
import ScopedWork.Options

/-!
# Scripts: options by their declared shape

Options and retry policies are read as records with declared fields, the way a reader
driven by the type declarations reads them. A record comes from an object, field by field
in the order of the keys (unknown keys are skipped, missing fields keep their defaults), or
from an array, field by field in declaration order, with no more items than fields. The
first field that does not fit refuses the record, with a text such as

* `invalid type: string "fast", expected struct TransientRetryPolicy`,
* `invalid value: integer -1, expected u64` (the integer in backquotes),
* `invalid length 6, expected fewer elements in array`,
* `unknown variant Off, expected one of None, ...` (each name in backquotes).

What was found is named by its type and, for a scalar, its value: null, a boolean, an
integer, a floating point number (as `Binary64.jsonText` writes it: `1.5`, `-0.0`,
`1e+16`), a string in quotes, a sequence or a map.
-/

namespace ScopedWork

namespace Script

/-- What a document is, as an error text names it. -/
def unexpected : Doc → String
  | .null => "null"
  | .bool b => "boolean `" ++ toString b ++ "`"
  | .num (.pos n) => "integer `" ++ toString n ++ "`"
  | .num (.neg i) => "integer `" ++ toString i ++ "`"
  | .num (.float x) => "floating point `" ++ x.jsonText ++ "`"
  | .str s => "string " ++ Text.quoted s
  | .arr _ => "sequence"
  | .obj _ => "map"

/-- The text of a value of the wrong type. -/
def invalidType (d : Doc) (expected : String) : String :=
  "invalid type: " ++ unexpected d ++ ", expected " ++ expected

/-- The names of the variants, as an error text lists them. -/
def oneOf (names : List String) : String :=
  let quoted := names.map fun n => "`" ++ n ++ "`"
  match quoted with
  | [a] => a
  | [a, b] => a ++ " or " ++ b
  | _ => "one of " ++ ", ".intercalate quoted

namespace Shape

/-- An unsigned integer; `what` names its type. -/
def unsigned (what : String) : Doc → Reading Nat
  | .num (.pos n) => .ok n
  | .num (.neg i) => .error ("invalid value: integer `" ++ toString i ++ "`, expected " ++ what)
  | d => .error (invalidType d what)

/-- A boolean. -/
def boolean : Doc → Reading Bool
  | .bool b => .ok b
  | d => .error (invalidType d "a boolean")

/-- One of the field-less variants `names`: a text, or an object whose one key names the
variant and whose value is null. -/
def variant (names : List String) (d : Doc) : Reading String :=
  let known (s : String) : Reading String :=
    if names.contains s then .ok s
    else .error ("unknown variant `" ++ s ++ "`, expected " ++ oneOf names)
  match d with
  | .str s => known s
  | .obj [(k, v)] => do
    let n ← known k
    match v with
    | .null => pure n
    | v => throw (invalidType v "unit")
  | .obj _ => .error "invalid value: map, expected map with a single key"
  | d => .error (invalidType d "string or map")

/-- Insert a field into fields sorted by key. -/
def insertByKey (f : String × Doc) : List (String × Doc) → List (String × Doc)
  | [] => [f]
  | g :: rest => if f.1 < g.1 then f :: g :: rest else g :: insertByKey f rest

/-- The fields of a record to read in turn, named as declared, and the length of an array
that has too many items. -/
def fieldsOf (names : List String) (what : String) (d : Doc) :
    Reading (List (String × Doc) × Option Nat) :=
  match d with
  | .obj fs => .ok ((fs.foldr insertByKey []).filter (names.contains ·.1), none)
  | .arr xs => .ok (names.zip xs, if names.length < xs.length then some xs.length else none)
  | d => .error (invalidType d what)

/-- Read the fields of a record into `init`, each by `step`, then refuse an array with too
many items. -/
def record {α : Type} (names : List String) (what : String) (init : α)
    (step : α → String × Doc → Reading α) (d : Doc) : Reading α := do
  let (fs, tooLong) ← fieldsOf names what d
  let r ← fs.foldlM step init
  match tooLong with
  | some n => throw ("invalid length " ++ toString n ++ ", expected fewer elements in array")
  | none => pure r

end Shape

end Script

namespace Policy

def fieldNames : List String := ["max_retries", "base_backoff_ms", "max_backoff_ms"]

/-- A policy read by its declared shape. -/
def read (d : Doc) : Script.Reading Policy :=
  Script.Shape.record fieldNames "struct TransientRetryPolicy" {} (fun p (k, v) => match k with
    | "max_retries" => do return { p with maxRetries := ← Script.Shape.unsigned "usize" v }
    | "base_backoff_ms" => do return { p with baseMs := ← Script.Shape.unsigned "u64" v }
    | "max_backoff_ms" => do return { p with maxMs := ← Script.Shape.unsigned "u64" v }
    | _ => pure p) d

/-- A policy written by its declared shape. -/
def toDoc (p : Policy) : Doc :=
  .obj [("max_retries", .nat p.maxRetries), ("base_backoff_ms", .nat p.baseMs),
    ("max_backoff_ms", .nat p.maxMs)]

end Policy

namespace Options

def fieldNames : List String :=
  ["auto_flush_mode", "execution_strategy", "default_scope_option",
    "avoid_failure_on_commit_retries", "transient_retry"]

/-- The strategy section: one flag. -/
def readStrategy (d : Doc) : Script.Reading Bool :=
  Script.Shape.record ["retry_on_optimistic_concurrency_failure"]
    "struct ExecutionStrategyOptions" false (fun _ (_, v) => Script.Shape.boolean v) d

/-- An optional policy: null is none. -/
def readRetry : Doc → Script.Reading (Option Policy)
  | .null => .ok none
  | d => some <$> Policy.read d

/-- Options read by their declared shape. -/
def read (d : Doc) : Script.Reading Options :=
  open Script in
  Shape.record fieldNames "struct DbContextScopeOptions" {} (fun o (k, v) => match k with
    | "auto_flush_mode" => do
      let n ← Shape.variant (AutoFlush.all.map AutoFlush.name) v
      return { o with autoFlush := (AutoFlush.ofName? n).getD o.autoFlush }
    | "execution_strategy" => do return { o with retryOnConflict := ← readStrategy v }
    | "default_scope_option" => do
      let n ← Shape.variant (ScopeOption.all.map ScopeOption.name) v
      return { o with defaultOption := (ScopeOption.ofName? n).getD o.defaultOption }
    | "avoid_failure_on_commit_retries" => do
      return { o with avoidCommitRetries := ← Shape.boolean v }
    | "transient_retry" => do return { o with transientRetry := ← readRetry v }
    | _ => pure o) d

/-- Options written by their declared shape. -/
def toDoc (o : Options) : Doc :=
  .obj [("auto_flush_mode", .str o.autoFlush.name),
    ("execution_strategy", .obj [("retry_on_optimistic_concurrency_failure", .bool o.retryOnConflict)]),
    ("default_scope_option", .str o.defaultOption.name),
    ("avoid_failure_on_commit_retries", .bool o.avoidCommitRetries),
    ("transient_retry", Doc.ofOption Policy.toDoc o.transientRetry)]

end Options

end ScopedWork

import ScopedWork.Script.Codec
import ScopedWork.Script.Shape

/-!
# Scripts: requests about single values

These requests ask about one value, fault, option set, change, transaction or transaction
manager, without a database. Each answers a document; a request that cannot be read is
refused with the reason.
-/

namespace ScopedWork

namespace Script

/-- The outcome of one call: `{"ok": v}` or the fault. -/
def outcome {α : Type} (f : α → Doc) : Except Fault α → Doc
  | .ok a => .obj [("ok", f a)]
  | .error e => e.toDoc

/-- Add fields to an object. -/
def extend (d : Doc) (more : List (String × Doc)) : Doc :=
  match d with
  | .obj fs => .obj (fs ++ more)
  | _ => .obj more

/-- An isolation level under `k`; none when absent or null. -/
def isolationField (d : Doc) (k : String) : Reading (Option Isolation) :=
  optionalEnumField d k "bad isolation level" Isolation.ofName?

/-- A mode of a unit of work under `k`. -/
def modeField (d : Doc) (k : String) : Reading UnitMode :=
  enumField d k "bad unit of work mode" UnitMode.ofName?

/-- What a value is. -/
def describeValue (d : Doc) : Reading Doc := do
  let v ← Value.read (← need d "value")
  let other ← match d.get? "other" with
    | some o => some <$> Value.read o
    | none => pure none
  let base : List (String × Doc) :=
    [("value", v.toDoc), ("type_name", .str v.typeName),
     ("as_i64", Doc.ofOption Doc.int v.asInt?), ("as_str", Doc.ofOption Doc.str v.asText?),
     ("is_null", .bool v.isNull), ("display", .str v.display)]
  match other with
  | some w => return .obj (base ++ [("eq", .bool (v.same w)), ("ne", .bool !(v.same w))])
  | none => return .obj base

/-- What a fault is. -/
def describeFault (d : Doc) : Reading Doc := do
  let e ← Fault.read (← need d "error")
  return .obj [("kind", .str e.kindName), ("display", .str e.message),
    ("is_transient", .bool e.isTransient), ("is_concurrency_conflict", .bool e.isConflict),
    ("is_commit_failure", .bool e.isCommitFailure),
    ("source", Doc.ofOption (fun s => .str s.message) e.source?), ("json", e.toDoc)]

/-- A policy read by its declared shape, its failure refusing the request. -/
def policyField (d : Doc) : Reading Policy := do
  match Policy.read (← need d "policy") with
  | .ok p => pure p
  | .error e => throw ("bad policy: " ++ e)

/-- The backoffs of a policy. -/
def describeBackoff (d : Doc) : Reading Doc := do
  let p ← policyField d
  let attempts ← listField d "attempts"
  let ns ← attempts.mapM fun a => match a.u64? with
    | some n => pure n
    | none => throw "bad attempt"
  return .obj [("policy", p.toDoc), ("backoff", .arr (ns.map (.nat ∘ p.backoff)))]

/-- What an option set is, and what becomes of it; options that cannot be read are
answered `{"error": "Deserialize"}`. -/
def describeOptions (d : Doc) : Reading Doc := do
  match Options.read (← need d "options") with
  | .error _ => return .obj [("error", .str "Deserialize")]
  | .ok o =>
    let validated : Doc := match o.validate with
      | .ok () => .obj [("ok", .null)]
      | .error m => .obj [("error", .str "Invalid"), ("message", .str m)]
    let provider : Doc := match o.validate with
      | .ok () => .obj [("ok", .null)]
      | .error m => (Fault.invalid ("Invalid scope options: " ++ m)).toDoc
    return .obj [("parsed", o.toDoc), ("validate", validated), ("provider", provider),
      ("base_retries", .bool ((Strategy.ofOptions o).retriesOnFailure []))]

/-- Moving a unit of work from one mode to another. -/
def describeTransition (d : Doc) : Reading Doc := do
  let a ← modeField d "from"
  let b ← modeField d "to"
  return extend (outcome (fun m => .str m.name) (a.transition b))
    [("display_from", .str a.display), ("display_to", .str b.display)]

/-- A transaction as shown to callers. -/
def showTxn (rename : Nat → Doc) (t : Transaction) : Doc :=
  .obj [("id", rename t.id), ("state", .str t.state.display),
    ("isolation", Doc.ofOption (fun i => .str i.name) t.isolation),
    ("changes", .arr (t.log.map Change.toDoc))]

/-- One operation on a transaction. -/
def transactionStep (t : Transaction) (op : Doc) : Reading (Transaction × Doc) := do
  let name ← textField op "op"
  let done (r : Except Fault Transaction) : Transaction × Doc :=
    match r with
    | .ok t => (t, .obj [("ok", .null)])
    | .error e => (t, e.toDoc)
  let (t, r) ← match name with
    | "record" => do
      let c ← Change.read (← need op "change")
      pure (done (t.record c))
    | "commit" => pure (done t.commit)
    | "rollback" => pure (done t.rollback)
    | "show" => pure (t, .obj [("ok", showTxn .nat t)])
    | _ => throw "bad transaction op"
  return (t, extend r [("state", .str t.state.display)])

/-- A transaction driven by a list of operations. -/
def runTransaction (d : Doc) : Reading Doc := do
  let id ← u64Field d "id"
  let iso ← isolationField d "isolation"
  let ops ← listField d "ops"
  let (_, out) ← ops.foldlM (fun (acc : Transaction × Array Doc) op => do
      let (t, r) ← transactionStep acc.1 op
      return (t, acc.2.push r)) ({ id, isolation := iso }, #[])
  return .obj [("ops", .arr out.toList)]

/-- Rename `txn_<id>` in a text to `txn_@<k>` for ids with an ordinal. -/
def renameTxns (ordinal : Nat → Option Nat) (s : String) : String :=
  match s.splitOn "txn_" with
  | [] => s
  | first :: rest => rest.foldl (fun acc part =>
      let digits := part.toList.takeWhile Char.isDigit
      let tail := String.ofList (part.toList.dropWhile Char.isDigit)
      match (String.ofList digits).toNat? with
      | some n =>
        match ordinal n with
        | some k => acc ++ "txn_@" ++ toString k ++ tail
        | none => acc ++ "txn_" ++ part
      | none => acc ++ "txn_" ++ part) first

/-- The least raw transaction id a manager request may name: it is never a real id. -/
def rawIdFloor : Nat := Nat.pow 10 12

/-- The transaction an operation of the manager names: `t`, the k-th begun, or else a raw
id. -/
def namedTxn (begun : Array Nat) (op : Doc) : Reading Nat :=
  match op.get? "t" with
  | some t => match t.u64? with
    | some k =>
      if 0 < k && k ≤ begun.size then .ok (begun.getD (k - 1) 0)
      else .error "t refers to no begun transaction"
    | none => .error "bad t"
  | none => do
    let raw ← u64Field op "raw"
    if raw < rawIdFloor then throw "raw transaction ids must be at least 10^12"
    return raw

/-- One operation on a transaction manager. -/
def managerStep (state : TxnManager × Array Nat) (op : Doc) :
    Reading ((TxnManager × Array Nat) × Doc) := do
  let (m, begun) := state
  let ordinal : Nat → Option Nat := fun id => (begun.findIdx? (· == id)).map (· + 1)
  let rename : Nat → Doc := fun id => .nat ((ordinal id).getD id)
  let failed (e : Fault) : Doc := e.toDocWith (renameTxns ordinal)
  let name ← textField op "op"
  match name with
  | "begin" => do
    let iso ← isolationField op "isolation"
    let (m, id) := m.begin iso
    let begun := begun.push id
    return ((m, begun), .obj [("ok", .nat begun.size)])
  | "active" => return ((m, begun), .obj [("ok", .nat m.activeCount)])
  | "record" => do
    let id ← namedTxn begun op
    let c ← Change.read (← need op "change")
    match m.record id c with
    | .ok m => return ((m, begun), .obj [("ok", .null)])
    | .error e => return ((m, begun), failed e)
  | "changes" => do
    let id ← namedTxn begun op
    match m.changes id with
    | .ok cs => return ((m, begun), .obj [("ok", .arr (cs.map Change.toDoc))])
    | .error e => return ((m, begun), failed e)
  | "isolation" => do
    let id ← namedTxn begun op
    return ((m, begun), .obj [("ok", Doc.ofOption (fun i => .str i.name) (m.isolation id))])
  | "commit" => do
    let id ← namedTxn begun op
    match m.commit id with
    | .ok (m, t) => return ((m, begun), .obj [("ok", showTxn rename t)])
    | .error e => return ((m, begun), failed e)
  | "rollback" => do
    let id ← namedTxn begun op
    match m.rollback id with
    | .ok (m, t) => return ((m, begun), .obj [("ok", showTxn rename t)])
    | .error e => return ((m, begun), failed e)
  | _ => throw "bad txm op"

/-- A transaction manager driven by a list of operations. -/
def runManager (d : Doc) : Reading Doc := do
  let ops ← listField d "ops"
  let (_, out) ← ops.foldlM (fun (acc : (TxnManager × Array Nat) × Array Doc) op => do
      let (s, r) ← managerStep acc.1 op
      return (s, acc.2.push r)) ((({} : TxnManager), #[]), #[])
  return .obj [("ops", .arr out.toList)]

end Script

end ScopedWork

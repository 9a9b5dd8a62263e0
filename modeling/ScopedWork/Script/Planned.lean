import ScopedWork.Script.Standalone

/-!
# Scripts: strategies against planned outcomes

A strategy request runs one strategy several times; its conflict counts carry from run to
run. Each run plans what its attempts return: attempt `k` reads the `k`-th planned outcome
when it happens, so an outcome that no attempt reaches is never read.

* `"ok"`, null, or no outcome at all (past the end of the plan) succeeds with `k`.
* An object with a `cancel` field cancels the run's token, whatever the field holds, and
  then behaves as its `then` outcome, which succeeds when absent and is never a
  cancellation itself.
* Anything else is read as a fault, which the attempt fails with.

A strategy is `none`, `transient` with a policy, `default` with options (absent or null
options are the defaults), or `conflict` around one of those; a conflict decorator may wrap
another one only if that one wraps `none`. A run reads its plan, then its `cancelled` and
`async` flags.
-/

namespace ScopedWork

namespace Script

/-- The state of a planned run: whether its token is cancelled, the attempts so far, and
why the request is refused, once an outcome could not be read. -/
structure PlannedRun where
  cancelled : Bool
  attempts : Nat := 0
  refusal : Option String := none

/-- A planned outcome that is not a cancellation. -/
def plainOutcome (k : Nat) : Doc → Reading (Except Fault Nat)
  | .str "ok" => .ok (.ok k)
  | .null => .ok (.ok k)
  | o => (fun e => .error e) <$> Fault.read o

/-- What attempt `k` does by the plan. -/
def plannedOutcome (outcomes : List Doc) (k : Nat) : StateM PlannedRun (Except Fault Nat) := do
  match outcomes[k - 1]? with
  | none => return .ok k
  | some o =>
    let plain ← match o.get? "cancel" with
      | some _ => do
        modify fun r => { r with cancelled := true }
        pure (match o.get? "then" with
          | some t => plainOutcome k t
          | none => .ok (.ok k))
      | none => pure (plainOutcome k o)
    match plain with
    | .ok r => return r
    | .error reason =>
      modify fun r => { r with refusal := r.refusal <|> some reason }
      return .error .cancelled

/-- The next attempt of a planned run; once the run is refused, attempts only fail. -/
def plannedAttempt (outcomes : List Doc) : StateM PlannedRun (Except Fault Nat) := do
  if (← get).refusal.isSome then return .error .cancelled
  let k := (← get).attempts + 1
  modify fun r => { r with attempts := k }
  plannedOutcome outcomes k

/-- Options under `options`: the defaults when absent or null. -/
def optionsOrDefault (d : Doc) : Reading Options :=
  match d.get? "options" with
  | none => .ok {}
  | some .null => .ok {}
  | some o => match Options.read o with
    | .ok o => .ok o
    | .error e => .error ("bad options: " ++ e)

/-- The kind a strategy document names. -/
def kindOf (s : Doc) : Option String := (s.get? "kind").bind Doc.str?

/-- A strategy read from a document; `fuel` bounds the nesting. The inner strategy of a
conflict decorator is read in full first; only then is a decorator around a decorator
refused, unless the inner one is of kind `none`. -/
def strategyWith : Nat → Doc → Reading Strategy
  | 0, _ => .error "strategy nested too deeply"
  | fuel + 1, s => do
    match ← textField s "kind" with
    | "none" => pure .once
    | "transient" => .transient <$> policyField s
    | "default" => Strategy.ofOptions <$> optionsOrDefault s
    | "conflict" =>
      let innerDoc ← need s "inner"
      let inner ← strategyWith fuel innerDoc
      if kindOf innerDoc == some "conflict" &&
          ((innerDoc.get? "inner").bind kindOf) != some "none" then
        throw "conflict strategies nest at most two deep"
      pure (.onConflict inner)
    | _ => throw "bad strategy kind"

/-- A strategy read from a document. -/
def strategyOf (s : Doc) : Reading Strategy := strategyWith (s.depth + 1) s

/-- One run of a strategy with its counts; the answer and the counts after. -/
def strategyRun (s : Strategy) (counts : List Nat) (run : Doc) : Reading (Doc × List Nat) := do
  let outcomes ← listField run "outcomes"
  let cancelled ← flag run "cancelled"
  let async ← flag run "async"
  let waiting : Option (Waiting (StateM PlannedRun)) :=
    if async then some { cancelled := do return (← get).cancelled, pause := pure () }
    else none
  let ((r, after), st) := (s.run waiting (plannedAttempt outcomes) counts).run { cancelled }
  if let some reason := st.refusal then throw reason
  let answer : Doc := .obj [("result", outcome .nat r), ("attempts", .nat st.attempts),
    ("retries_before", .bool (s.retriesOnFailure counts)),
    ("retries_after", .bool (s.retriesOnFailure after)),
    ("retry_count", Doc.ofOption Doc.nat (s.retryCount? after))]
  return (answer, after)

/-- Runs of one strategy, its counts carried from run to run. -/
def runStrategy (d : Doc) : Reading Doc := do
  let s ← strategyOf (← need d "strategy")
  let runs ← listField d "runs"
  let (_, out) ← runs.foldlM (fun (acc : List Nat × Array Doc) run => do
      let (answer, after) ← strategyRun s acc.1 run
      return (after, acc.2.push answer)) (s.initial, #[])
  return .obj [("runs", .arr out.toList)]

end Script

end ScopedWork

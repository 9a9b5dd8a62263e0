import ScopedWork.Script.Session

/-!
# Scripts: recording interceptors and listeners

A recording interceptor reports every hook as `{"hook": name, "event": ev, ...}` when it
fires, with the facts of the event. Then it reads its step for what to do:

* `on[ev]`, if there is one, is a list of steps that it runs;
* `fail[ev]`, if there is one, is a fault, or `{"error": fault, "calls": [k...]}` to fail
  only the listed calls of the event; the fault is read on every call that it fails, and
  the list has to hold an `error` whatever it lists. It is read for every event, but only a
  hook that may refuse fails;
* when a transaction operation failed it answers the fault under `replace_failed`, if
  there is one, and otherwise the fault it got;
* before a raw command it asks to join a new transaction if `reenlist` is true.

A listener reports `{"listener": name, "call": n}`, runs its `run` steps if it has any, and
fails with its `fail` fault if it has one, on every call or on those listed in `fail_on`;
the fault is read only on a call that it fails.

Hook steps run through a runner that the interpreter provides. Once the program is refused
the hooks do nothing.
-/

namespace ScopedWork

namespace Script

/-- How hooks run a list of steps, given as a document. -/
abbrev HookRunner := Doc → Prog Unit

instance : Inhabited Recorder where
  default := { name := "", spec := .null }

instance : Inhabited Listener where
  default := { name := "", spec := .null }

/-- The name of an event that may be refused, and its facts. -/
def guardEvent : Guard → Prog (String × List (String × Doc))
  | .transactionStarting => pure ("transaction_starting", [])
  | .commandCreating => pure ("command_creating", [])
  | .readerExecuting p => do
    return ("reader_executing", [("pending", .bool p.pending), ("tx", ← Prog.txnOptionDoc p.txn)])
  | .savingChanges => pure ("saving_changes", [])

/-- The name of an event that is only noted, and its facts. -/
def noticeEvent : Notice → String × List (String × Doc)
  | .savedChanges n => ("saved_changes", [("affected", .nat n)])
  | .saveFailed => ("save_changes_failed", [])
  | .entityTracked b => ("entity_tracked", [("from_query", .bool b)])
  | .stateChanged s => ("entity_state_changed", [("state", .str s.name)])

/-- The fault a hook failure specification gives call `n`, if it fails that call. -/
def hookFailure (f : Doc) (n : Nat) : Reading (Option Fault) := do
  match f.get? "calls" with
  | some cs =>
    let e ← need f "error"
    if listsNumber (← items cs) n then return some (← Fault.read e) else return none
  | none => return some (← Fault.read f)

namespace Recorder

/-- Count a call of an event. -/
def counted (r : Recorder) (event : String) : Recorder × Nat :=
  let n := (Session.lookup r.calls event).getD 0 + 1
  ({ r with calls := (event, n) :: r.calls.filter (·.1 != event) }, n)

/-- Recorder `k` takes note of an event: it reports it, counts it and runs its steps; the
recorder and the number of the call. -/
def fire (run : HookRunner) (k : Nat) (event : String) (facts : List (String × Doc)) :
    Prog (Recorder × Nat) := do
  let r := (← Prog.session).recorders.getD k default
  Prog.report (.obj ([("hook", .str r.name), ("event", .str event)] ++ facts))
  let (r', n) := r.counted event
  Prog.modify fun s => { s with recorders := s.recorders.modify k fun _ => r' }
  match (r.spec.get? "on").bind (·.get? event) with
  | some steps => run steps
  | none => pure ()
  return (r, n)

/-- The fault the recorder gives call `n` of an event, if it fails that call. -/
def failure (r : Recorder) (event : String) (n : Nat) : Prog (Option Fault) := do
  if (← Prog.refused) then return none
  match (r.spec.get? "fail").bind (·.get? event) with
  | some f => Prog.read (hookFailure f n)
  | none => return none

/-- Fail call `n` of an event if the recorder is to fail it. -/
def refuse (r : Recorder) (event : String) (n : Nat) : Prog Unit := do
  match ← r.failure event n with
  | some e => throw e
  | none => pure ()

end Recorder

/-- Listener `l` is called: it reports the call, runs its steps and fails if asked to. -/
def Listener.call (run : HookRunner) (l : Nat) : Prog Unit := do
  let li := (← Prog.session).listeners.getD l default
  let n := li.calls + 1
  Prog.modify fun s => { s with listeners := s.listeners.modify l fun li => { li with calls := n } }
  Prog.report (.obj [("listener", .str li.name), ("call", .nat n)])
  match li.spec.get? "run" with
  | some steps => run steps
  | none => pure ()
  if (← Prog.refused) then return
  match li.spec.get? "fail" with
  | some f =>
    let fails ← match li.spec.get? "fail_on" with
      | some calls => do pure (listsNumber (← Prog.read (items calls)) n)
      | none => pure true
    if fails then throw (← Prog.read (Fault.read f))
  | none => pure ()

/-- The program's hooks, running their steps with `run`. -/
def hooks (run : HookRunner) : Hooks Session where
  guard k g := do
    if (← Prog.refused) then return
    let (event, facts) ← guardEvent g
    let (r, n) ← Recorder.fire run k event facts
    r.refuse event n
  enlist k p := do
    if (← Prog.refused) then return .unchanged
    let facts := [("pending", Doc.bool p.pending), ("tx", ← Prog.txnOptionDoc p.txn)]
    let (r, n) ← Recorder.fire run k "non_query_executing" facts
    r.refuse "non_query_executing" n
    if (← Prog.refused) then return .unchanged
    return if ← Prog.read (flag r.spec "reenlist") then .reenlist else .unchanged
  failed k a e := Run.orElse (do
    if (← Prog.refused) then return e
    let facts := [("action", Doc.str a.name), ("cause", ← Prog.faultDoc e)]
    let (r, n) ← Recorder.fire run k "transaction_failed" facts
    let _ ← r.failure "transaction_failed" n
    if (← Prog.refused) then return e
    match r.spec.get? "replace_failed" with
    | some x => Prog.read (Fault.read x)
    | none => return e) e
  notice k n := Run.ignoring (do
    if (← Prog.refused) then return
    let (event, facts) := noticeEvent n
    let (r, c) ← Recorder.fire run k event facts
    let _ ← r.failure event c)
  listen l := do
    if (← Prog.refused) then return
    Listener.call run l

end Script

end ScopedWork

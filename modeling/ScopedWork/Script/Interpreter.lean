import ScopedWork.Script.Recording

/-!
# Scripts: running programs

Steps run in order, each read when it runs and reporting how it ended after it finished,
so whatever happened inside it (the work of an execution, the hooks it set off) is reported
first. Work is the steps of an execution: a failing step ends the work with its fault
unless the step catches it, and `return` ends the work with a value. At the top level and
in hooks a failure is only reported, and the next step runs.

Each time an execution invokes its work, `{"enter": n}` is reported, `n` counting that
execution's invocations from one; a call test in the work picks its branch by that number.

Where a step runs decides what it may do. The top level and asynchronous work may run
asynchronous variants; synchronous work and hooks may not. Only work has an execution
scope; hooks run outside any. An asynchronous step waits under a token: a fresh cancelled
one if the step asks for it, else the token of the execution scope it runs in, else a
fresh one.
-/

namespace ScopedWork

namespace Script

/-- Where steps run: in the work of an execution (its scope, the number of the invocation
and the state it was given) or outside any work, and whether asynchronous variants may
run there. -/
structure Frame where
  exec : Option Nat := none
  call : Nat := 0
  state : Doc := .null
  inWork : Bool := false
  async : Bool := true

/-- Where hook steps run: outside any work, synchronously. -/
def Frame.hook : Frame := { async := false }

/-- How a list of steps ended: it ran to its end, or it returned a value. -/
inductive Flow where
  | next
  | done (value : Doc)

/-- The tables and rows that a report of the database lists. -/
structure DumpPlan where
  tables : List String
  keys : List Key

/-- Insert into a list of integers sorted ascending, without duplicates. -/
def insertSorted (i : Int) : List Int → List Int
  | [] => [i]
  | j :: rest => if i < j then i :: j :: rest else if i == j then j :: rest else j :: insertSorted i rest

namespace Prog

/-- The report of the database: the planned tables with their counts and planned rows, and
the transaction counters. -/
def dump (plan : DumpPlan) : Prog Doc := do
  let db := (← Act.world).db
  let table (t : String) : Doc :=
    let ids := (plan.keys.filter (·.1 == t)).foldl (fun acc k => insertSorted k.2 acc) []
    let rows := ids.filterMap fun i => (db.row? (t, i)).map fun r =>
      Doc.arr [.int i, r.value.toDoc, .nat r.version]
    .obj [("count", .nat (db.rowCount t)), ("rows", .arr rows)]
  return .obj [("tables", .obj (plan.tables.map fun t => (t, table t))),
    ("started", .nat db.started), ("active", .nat db.activeCount)]

/-- The execution scope of the work; outside work there is none, and the program is
refused. -/
def execOf (frame : Frame) : Prog Nat :=
  match frame.exec with
  | some e => pure e
  | none => refuse "no execution scope here"

/-- How a step waits for the database: its `async` flag, allowed only where asynchronous
variants may run, and its `cancelled` flag. -/
def waitOf (frame : Frame) (d : Doc) : Prog Wait := do
  let async ← read (flag d "async")
  if async && !frame.async then refuse "async variant requested inside synchronous work"
  let cancelled ← read (flag d "cancelled")
  if !async then return .blocking
  if cancelled then return .async (← Cancellation.freshToken true)
  match frame.exec with
  | some e => return .async (← Exec.get e).token
  | none => return .async (← Cancellation.freshToken false)

/-- A standalone context, created on first use. -/
def standalone (name : String) : Prog Nat := do
  match Session.lookup (← session).contexts name with
  | some c => return c
  | none =>
    let c ← Context.create
    modify fun s => { s with contexts := (name, c) :: s.contexts }
    return c

/-- The context a reference names; without one, that of the work's scope in work and the
ambient one elsewhere. -/
def context (frame : Frame) (ref : Option ContextRef) : Prog Nat := do
  let ref := ref.getD (if frame.exec.isSome then .scope else .ambient)
  match ref with
  | .scope => return (← Exec.get (← execOf frame)).context
  | .ambient => Ambient.context
  | .accessor => Ambient.context
  | .manual n => UnitOfWork.context (← named (← session).scopes n).value
  | .fixed n => FixedAccessor.context (← named (← session).accessors n)
  | .standalone n => standalone n

/-- The unit of work a reference names. -/
def unit : UnitRef → Prog Nat
  | .ambient => Ambient.unit
  | .manual n => do return (← named (← session).scopes n).value

/-- A new factory from a specification `{"fail_after": n, "error": fault}`: it creates `n`
contexts (none when `n` is not a count), then refuses with the fault. The fault must be
there from the start, but it is read only when the factory first refuses: one that cannot
be read refuses the program then. Without a specification the factory never refuses. -/
def factory (spec : Option Doc) : Prog Nat := do
  match spec with
  | none => Factory.new fun _ => none
  | some s =>
    let limit := ((s.get? "fail_after").bind Doc.u64?).getD 0
    match Fault.read (← read (need s "error")) with
    | .ok e => Factory.new (Factory.limited (some limit) e)
    | .error reason =>
      let f ← Factory.new (Factory.limited (some limit) (.other reason))
      modify fun st => { st with unreadable := (f, reason) :: st.unreadable }
      return f

/-- The factory specification of a step, if it has one. -/
def factoryField (d : Doc) : Option Doc :=
  match d.get? "factory" with
  | some .null => none
  | r => r

/-- Options under `options` for a provider: the defaults when absent or null. -/
def optionsField (d : Doc) : Prog Options := read (optionsOrDefault d)

/-- A value found, as reported. -/
def found : Option Value → Doc
  | some v => .obj [("value", v.toDoc)]
  | none => .null

/-- An isolation level as reported. -/
def isolationDoc (i : Option Isolation) : Doc := Doc.ofOption (fun l => .str l.name) i

/-- Run an operation on a context. -/
def contextOp (h : Hooks Session) (frame : Frame) (wait : Wait) (c : Nat) :
    ContextOp → Prog Doc
  | .add k v => do Context.add h c k v; return .null
  | .update k v => do Context.update h c k v; return .null
  | .modifyUntracked k v => do Context.modifyUntracked c k v; return .null
  | .remove k => do Context.remove h c k; return .null
  | .find k => do return found (← Context.find h c k wait)
  | .count t => do return .nat (← Context.count h c t wait)
  | .raw ch => do return .nat (← Context.executeRaw h c ch wait)
  | .save => do return .nat (← Context.save h c wait)
  | .begin iso => do txnDoc (← Context.begin h c iso wait)
  | .commit => do Context.commit h c wait; return .null
  | .rollback => do Context.rollback h c wait; return .null
  | .close => do Context.close c; return .null
  | .clearTracked => do Context.clearTracked c; return .null
  | .hasPending => do return .bool (← Context.hasPending c)
  | .hasTxn => do return .bool (← Context.hasTxn c)
  | .txn => do txnOptionDoc (← Context.currentTxn c)
  | .isolation => do return isolationDoc (← Context.isolation c)
  | .trackedCount => do return .nat (← Context.trackedCount c)
  | .closes => do return .nat (← Context.closeCount c)
  | .sameAs other => do return .bool (c == (← context frame (some other)))
  | .addRecorder name spec => do
    let k := (← session).recorders.size
    Context.addInterceptor c (.host k)
    modify fun s => { s with recorders := s.recorders.push { name, spec } }
    return .null
  | .removeRecorder name => do
    let held := (← session).recorders.toList.zipIdx.reverse.map fun (r, k) => (r.name, k)
    Context.removeInterceptor c (.host (← named held name))
    return .null

/-- Run an operation on a unit of work. -/
def unitOp (h : Hooks Session) (frame : Frame) (wait : Wait) (u : Nat) : UnitOp → Prog Doc
  | .tryStart => do return .bool (← UnitOfWork.tryStart h u wait)
  | .tryCommit => do return .bool (← UnitOfWork.tryCommit h u wait)
  | .tryRollback => do return .bool (← UnitOfWork.tryRollback h u wait)
  | .tryRollbackInvalidate => do return .bool (← UnitOfWork.tryRollbackInvalidate h u wait)
  | .undoInvalidation => do UnitOfWork.undoInvalidation u; return .null
  | .isInvalidated => do return .bool (← UnitOfWork.isInvalidated u)
  | .isDisposed => do return .bool (← UnitOfWork.isDisposed u)
  | .mode => do return .str (← UnitOfWork.mode u).name
  | .promote m => do
    UnitOfWork.promote u m
    return .str (← UnitOfWork.mode u).name
  | .isolation => do return isolationDoc (← UnitOfWork.isolation u)
  | .setIsolation l => do UnitOfWork.setIsolation u l; return .null
  | .dispose => do UnitOfWork.dispose h u wait; return .null
  | .contextIs spec => do
    let c ← UnitOfWork.context u
    let ref ← read (textField spec "ctx_ref" >>= ContextRef.read)
    return .bool (c == (← context frame (some ref)))
  | .sameAs other => do return .bool (u == (← unit other))
  | .observer => do
    let _ ← UnitOfWork.observer u
    return .null
  | .isSaving => do
    let o ← UnitOfWork.observer u
    return .bool ((← Act.world).observer o).saving
  | .isAborted => do
    let o ← UnitOfWork.observer u
    return .bool ((← Act.world).observer o).aborted
  | .listen spec => do
    let o ← UnitOfWork.observer u
    let name ← read (textField spec "name")
    let kind ← read (kindField spec "kind" "bad listener kind" ListenKind.ofName?)
    let l := (← session).listeners.size
    let li : Listener := { name, spec }
    modify fun s => { s with listeners := s.listeners.push li }
    UnitOfWork.modifyObserver o fun ob => match kind with
      | .start => { ob with startListeners := ob.startListeners ++ [l] }
      | .command => { ob with commandListeners := ob.commandListeners ++ [l] }
    return .null

/-- Run an operation on the execution scope of the work. -/
def scopeOp (frame : Frame) (e : Nat) : ScopeOp → Prog Doc
  | .abort => do Exec.abort e; return .null
  | .isCompleted => do return .bool (← Exec.isCompleted e)
  | .isNested => do return .bool (← Exec.get e).nested
  | .isCancelled => do return .bool (← Exec.isCancelled e)
  | .state => pure frame.state
  | .isolation => do return isolationDoc (← UnitOfWork.isolation (← Exec.get e).unit)
  | .setIsolation l => do UnitOfWork.setIsolation (← Exec.get e).unit l; return .null
  | .cancel => do Cancellation.cancel (← Exec.get e).token; return .null
  | .spawnCancel => do
    if !frame.async then refuse "spawn_cancel needs asynchronous work"
    Cancellation.spawnCancel (← Exec.get e).token
    return .null
  | .yield => do
    if !frame.async then refuse "yield needs asynchronous work"
    Cancellation.suspend
    return .null

/-- Change the database. -/
def modifyDatabase (f : Database → Database) : Prog Unit :=
  Act.modifyWorld fun w => { w with db := f w.db }

/-- Run an operation on the database. -/
def databaseOp (plan : DumpPlan) : DatabaseOp → Prog Doc
  | .seed (t, i) v => do Act.database (Database.seed t i v); return .null
  | .injectCommitFailure f => do
    modifyDatabase fun db => { db with commitFault := some f }
    return .null
  | .injectFaults n => do
    modifyDatabase fun db => { db with transientFaults := n }
    return .null
  | .rowCount t => do return .nat ((← Act.world).db.rowCount t)
  | .get k => do return found (((← Act.world).db.row? k).map (·.value))
  | .version k => do return Doc.ofOption Doc.nat (((← Act.world).db.row? k).map (·.version))
  | .started => do return .nat (← Act.world).db.started
  | .active => do return .nat (← Act.world).db.activeCount
  | .dump => dump plan

/-- The work of an execution: each invocation is reported and runs the steps with
`recurse`. -/
def work (recurse : Frame → List Doc → Prog Flow) (slot : Nat) (state : Doc) (async : Bool)
    (steps : List Doc) : Work Session Doc := fun e => do
  let n := (← session).invocations.getD slot 0 + 1
  modify fun s => { s with invocations := s.invocations.modify slot fun _ => n }
  report (.obj [("enter", .nat n)])
  return do
    match ← recurse { exec := some e, call := n, state, inWork := true, async } steps with
    | .done v => pure v
    | .next => pure .null

/-- Run an execution. Its provider, nesting option, state and work are read first; then
its `async` flag, allowed only where asynchronous variants may run, and for an
asynchronous execution its `cancel_before` flag. -/
def execute (recurse : Frame → List Doc → Prog Flow) (h : Hooks Session) (frame : Frame)
    (d : Doc) : Prog Doc := do
  let p ← named (← session).providers (((d.get? "provider").bind Doc.str?).getD "p")
  let option ← read (optionField d)
  let state := (d.get? "state").getD .null
  let steps ← read (listField d "work")
  let async ← read (flag d "async")
  if async && !frame.async then refuse "async variant requested inside synchronous work"
  let wait ← if async then Wait.async <$> Cancellation.freshToken (← read (flag d "cancel_before"))
    else pure .blocking
  let pr := (← Act.world).provider p
  let slot := (← session).invocations.size
  modify fun s => { s with invocations := s.invocations.push 0 }
  Execution.execute h p (option.getD pr.options.defaultOption)
    (work recurse slot state async steps) wait

/-- The name a new handle is kept under. A handle is kept with the lock on the program's
handles held, so a step without a name poisons the lock and refuses the program as a
failed lookup does. -/
def handleName (d : Doc) : Prog String :=
  match (d.get? "name").bind Doc.str? with
  | some n => pure n
  | none => refuse poisoned

/-- Let go of the most recent external transaction held under a name. -/
def leaveExternal (name : String) : Prog Unit := do
  let held := (← session).externals
  if held.contains name then
    modify fun s => { s with externals := s.externals.erase name }
    Ambient.leaveExternal
  else refuse poisoned

/-- Run an action other than a call test or a return. An action on a context or a unit of
work finds its target, then reads how it waits, then its own fields; other actions read
their fields as they need them and never wait under a token. -/
def perform (recurse : Frame → List Doc → Prog Flow) (h : Hooks Session) (plan : DumpPlan)
    (frame : Frame) (name : String) (d : Doc) : Prog Doc := do
  if contextActions.contains name then
    let c ← context frame (← read (contextRefField d "ctx"))
    let wait ← waitOf frame d
    contextOp h frame wait c (← read (readContextOp name d))
  else if unitAction name then
    let u ← unit (← read (unitRefField d "uow"))
    let wait ← waitOf frame d
    unitOp h frame wait u (← read (readUnitOp name d))
  else if scopeActions.contains name then
    let e ← execOf frame
    scopeOp frame e (← read (readScopeOp name d))
  else if databaseActions.contains name then
    databaseOp plan (← read (readDatabaseOp name d))
  else match name with
    | "execute" => execute recurse h frame d
    | "fail" => throw (← read (need d "error" >>= Fault.read))
    | "provider" => do
      let options ← optionsField d
      let f ← factory (factoryField d)
      let p ← Provider.create f options none
      if let some sim ← read (conflictField d) then Provider.simulateConflicts p sim
      let key ← handleName d
      modify fun s => { s with providers := (key, p) :: s.providers }
      return .null
    | "create_scope" => do
      let p ← named (← session).providers (((d.get? "provider").bind Doc.str?).getD "p")
      let option ← read (optionField d)
      let s ← Provider.openScope p option
      let key ← handleName d
      modify fun st => { st with scopes := (key, s) :: st.scopes }
      return .obj [("root", .bool s.root)]
    | "dispose_scope" => do
      let s ← named (← session).scopes (← read (textField d "name"))
      Scope.dispose h s (← waitOf frame d)
      return .null
    | "drop_scope" => do
      let key ← read (textField d "name")
      let s ← named (← session).scopes key
      modify fun st => { st with scopes := Session.forget st.scopes key }
      let _ ← Act.outcome (Scope.dispose h s .blocking)
      return .null
    | "scope_is_root" => do
      let s ← named (← session).scopes (← read (textField d "name"))
      return .bool s.root
    | "has_db_context" => return .bool (← Ambient.hasUnit)
    | "accessor_has" => return .bool (← Ambient.hasUnit)
    | "fixed_accessor" => do
      let a ← FixedAccessor.new (← factory (factoryField d))
      let key ← handleName d
      modify fun s => { s with accessors := (key, a) :: s.accessors }
      return .bool true
    | "external_enter" => do
      let key ← handleName d
      Ambient.enterExternal
      modify fun s => { s with externals := key :: s.externals }
      return .null
    | "external_leave" => do
      leaveExternal (← read (textField d "name"))
      return .null
    | "external_active" => return .bool (← Ambient.externalActive)
    | other => refuse ("unknown action '" ++ other ++ "'")

/-- Run one step. A call test picks its branch by the number of the invocation, a missing
branch being empty; `fail` ends the work it is in whatever its other fields say. -/
def step (recurse : Frame → List Doc → Prog Flow) (h : Hooks Session) (plan : DumpPlan)
    (frame : Frame) (d : Doc) : Prog Flow := do
  let name ← read (textField d "do")
  match name with
  | "if_call" =>
    let hit := match ← read (need d "n") with
      | .arr xs => listsNumber xs frame.call
      | x => x.u64? == some frame.call
    match d.get? (if hit then "then" else "else") with
    | some branch => recurse frame (← read (items branch))
    | none => return .next
  | "return" =>
    let v := (d.get? "value").getD .null
    report (.obj [("do", .str "return"), ("ok", v)])
    return .done v
  | _ =>
    let r ← Act.outcome (perform recurse h plan frame name d)
    if (← refused) then throw (.other "refused")
    reportStep name r
    match r with
    | .error e =>
      if frame.inWork && (name == "fail" || !(← read (flag d "catch"))) then throw e
      return .next
    | .ok _ => return .next

/-- Run steps until one returns; once the program is refused, stop. -/
def steps (run : Doc → Prog Flow) : List Doc → Prog Flow
  | [] => pure .next
  | s :: rest => do
    checkFactories
    if (← refused) then throw (.other "refused")
    match ← run s with
    | .done v => return .done v
    | .next => steps run rest

/-- Run the steps of a hook, unless hooks are nested too deeply already. -/
def hookSteps (recurse : Frame → List Doc → Prog Flow) (ss : Doc) : Prog Unit := do
  if (← refused) then return
  if hookDepthLimit ≤ (← session).depth then
    report (.obj [("hook_depth_exceeded", .bool true)])
  else
    let list ← read (items ss)
    modify fun s => { s with depth := s.depth + 1 }
    let _ ← Act.outcome (recurse Frame.hook list)
    modify fun s => { s with depth := s.depth - 1 }

/-- Run steps; `fuel` bounds how deeply steps nest, through work and hooks alike. -/
def run (plan : DumpPlan) : Nat → Frame → List Doc → Prog Flow
  | 0, _, _ => throw (.other "steps nested too deeply")
  | fuel + 1, frame, ss =>
    let h := hooks (hookSteps (run plan fuel))
    steps (step (run plan fuel) h plan frame) ss

end Prog

end Script

end ScopedWork

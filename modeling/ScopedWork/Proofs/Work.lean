import ScopedWork.Execution

/-!
# Work that stays in its scope

The work of a scoped execution may be any code. The all-or-nothing guarantee of a root
execution is about work that touches the database only through the context of its
execution scope (tracking entities, finding, counting, raw commands and saves), that may
abort its scope, and that may run executions nested in it which join its unit of work.
`Prog` is such work: a program that sees the outcome of each of its operations and decides
from it what to do next.

A program runs with a `Journal` as the host's state. It records there the database's
history each time the execution invokes it, and after each of its operations the history
before and after the operation and the transaction of its context: what the work itself
can observe of its effect.

`Routine` is work that may also control its context's transaction: begin, commit and roll
back, besides the operations of `Prog`.
-/

namespace ScopedWork

/-- What an operation of work answers. -/
inductive Reply where
  | unit
  | value (v : Option Value)
  | count (n : Nat)

/-- An operation of work on the context of its execution scope. -/
inductive Op where
  | add (k : Key) (v : Value)
  | update (k : Key) (v : Value)
  | remove (k : Key)
  | modifyUntracked (k : Key) (v : Value)
  | find (k : Key)
  | count (table : String)
  | raw (change : Change)
  | save

/-- Work that stays in its scope. After an operation or a nested execution, the rest of the
work is chosen from its outcome, so the work may catch a failure and go on. -/
inductive Prog where
  /-- End with an answer. -/
  | done (r : Reply)
  /-- Fail with a fault of the work's own. -/
  | fail (e : Fault)
  /-- Run an operation on the scope's context. -/
  | op (o : Op) (wait : Wait) (next : Except Fault Reply → Prog)
  /-- Abort the scope. -/
  | abort (next : Prog)
  /-- Run work in an execution that joins the ambient unit of work. -/
  | nest (body : Prog) (wait : Wait) (next : Except Fault Reply → Prog)

/-- What work records as it runs. -/
inductive Mark where
  /-- The execution invoked the work; the database's history at that point. -/
  | entered (history : List TxnEvent)
  /-- An operation ran: the history before and after it, and its context's transaction
  after it. -/
  | touched (before after : List TxnEvent) (txn : Option Nat)

/-- The host's state while work runs: what it recorded, in order. -/
abbrev Journal := List Mark

namespace Op

variable {σ : Type}

/-- Run an operation on context `c`. -/
def run (h : Hooks σ) (c : Nat) (wait : Wait) : Op → Act σ Reply
  | add k v => do Context.add h c k v; return .unit
  | update k v => do Context.update h c k v; return .unit
  | remove k => do Context.remove h c k; return .unit
  | modifyUntracked k v => do Context.modifyUntracked c k v; return .unit
  | find k => do return .value (← Context.find h c k wait)
  | count table => do return .count (← Context.count h c table wait)
  | raw change => do return .count (← Context.executeRaw h c change wait)
  | save => do return .count (← Context.save h c wait)

end Op

namespace Prog

/-- Run work in execution scope `e`; nested executions go through provider `p`. -/
def run (h : Hooks Journal) (p e : Nat) : Prog → Act Journal Reply
  | done r => pure r
  | fail f => throw f
  | op o wait next => do
    let before := (← Act.world).db.history
    let c := ((← Act.world).exec e).context
    let r ← Act.outcome (o.run h c wait)
    let w ← Act.world
    Act.modifyHost (· ++ [.touched before w.db.history (w.context c).txn])
    run h p e (next r)
  | abort next => do
    Exec.abort e
    run h p e next
  | nest body wait next => do
    let r ← Act.outcome (Execution.execute h p .joinExisting (fun e' => pure (run h p e' body)) wait)
    run h p e (next r)

/-- The work of a root execution: it records each invocation, then runs the program. -/
def rootWork (h : Hooks Journal) (p : Nat) (prog : Prog) : Work Journal Reply := fun e => do
  let w ← Act.world
  Act.modifyHost (· ++ [.entered w.db.history])
  return prog.run h p e

end Prog

/-- An operation of work on the context of its execution scope, transaction control
included. -/
inductive Cmd where
  | op (o : Op)
  | begin (iso : Option Isolation)
  | commit
  | rollback

namespace Cmd

variable {σ : Type}

/-- Run a command on context `c`; a transaction begun answers its id. -/
def run (h : Hooks σ) (c : Nat) (wait : Wait) : Cmd → Act σ Reply
  | op o => o.run h c wait
  | begin iso => do return .count (← Context.begin h c iso wait)
  | commit => do Context.commit h c wait; return .unit
  | rollback => do Context.rollback h c wait; return .unit

end Cmd

/-- Work built from commands on its scope's context, aborts and nested executions. -/
inductive Routine where
  | done (r : Reply)
  | fail (e : Fault)
  | cmd (x : Cmd) (wait : Wait) (next : Except Fault Reply → Routine)
  | abort (next : Routine)
  | nest (body : Routine) (wait : Wait) (next : Except Fault Reply → Routine)

namespace Routine

/-- Run a routine in execution scope `e`, recording as a program does; nested executions go
through provider `p`. -/
def run (h : Hooks Journal) (p e : Nat) : Routine → Act Journal Reply
  | done r => pure r
  | fail f => throw f
  | cmd x wait next => do
    let before := (← Act.world).db.history
    let c := ((← Act.world).exec e).context
    let r ← Act.outcome (x.run h c wait)
    let w ← Act.world
    Act.modifyHost (· ++ [.touched before w.db.history (w.context c).txn])
    run h p e (next r)
  | abort next => do
    Exec.abort e
    run h p e next
  | nest body wait next => do
    let r ← Act.outcome (Execution.execute h p .joinExisting (fun e' => pure (run h p e' body)) wait)
    run h p e (next r)

/-- The work of a root execution: it records each invocation, then runs the routine. -/
def rootWork (h : Hooks Journal) (p : Nat) (prog : Routine) : Work Journal Reply := fun e => do
  let w ← Act.world
  Act.modifyHost (· ++ [.entered w.db.history])
  return prog.run h p e

end Routine

end ScopedWork

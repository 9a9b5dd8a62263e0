import ScopedWork.Decimal.Shortest
import ScopedWork.Binary64
import ScopedWork.Value
import ScopedWork.Fault
import ScopedWork.Doc
import ScopedWork.Doc.Parse
import ScopedWork.Doc.Print
import ScopedWork.Text.Printable
import ScopedWork.Text.Quoted
import ScopedWork.Options
import ScopedWork.Store.Change
import ScopedWork.Store.Transaction
import ScopedWork.Store.Manager
import ScopedWork.Store.Database
import ScopedWork.Tracker
import ScopedWork.Ambient
import ScopedWork.World
import ScopedWork.Context.Basic
import ScopedWork.Cancellation
import ScopedWork.UnitOfWork.Basic
import ScopedWork.Context.Transaction
import ScopedWork.Context.Save
import ScopedWork.Context.Query
import ScopedWork.Scope
import ScopedWork.Strategy
import ScopedWork.Provider
import ScopedWork.Execution
import ScopedWork.Script.Fields
import ScopedWork.Script.Shape
import ScopedWork.Script.Codec
import ScopedWork.Script.Standalone
import ScopedWork.Script.Planned
import ScopedWork.Script.Action
import ScopedWork.Script.Action.Read
import ScopedWork.Script.Session
import ScopedWork.Script.Recording
import ScopedWork.Script.Interpreter
import ScopedWork.Script.Program
import ScopedWork.Script.Request
import ScopedWork.Proofs.Retry
import ScopedWork.Proofs.Act
import ScopedWork.Proofs.Store
import ScopedWork.Proofs.Bookkeeping
import ScopedWork.Proofs.Serial
import ScopedWork.Proofs.Versions
import ScopedWork.Proofs.Work
import ScopedWork.Proofs.World
import ScopedWork.Proofs.Ambient
import ScopedWork.Proofs.Root.Invariant
import ScopedWork.Proofs.Root.Steps
import ScopedWork.Proofs.Root.Attempts
import ScopedWork.Proofs.Root.Operations
import ScopedWork.Proofs.Root.Scopes
import ScopedWork.Proofs.Root.Nesting
import ScopedWork.Proofs.Keeps
import ScopedWork.Proofs.Attempt.Kept
import ScopedWork.Proofs.Attempt.Fresh
import ScopedWork.Proofs.Attempt.Commit
import ScopedWork.Proofs.Held
import ScopedWork.Proofs.Attempt.Released
import ScopedWork.Proofs.Retry.Cancellation
import ScopedWork.Proofs.Attempt.Simulated
import ScopedWork.Proofs.Invalidated
import ScopedWork.Proofs.Root.Commit
import ScopedWork.Proofs.Root.Prepare
import ScopedWork.Proofs.Root.AllOrNothing
import ScopedWork.Proofs.Waiting.Blind
import ScopedWork.Proofs.Waiting.Agree
import ScopedWork.Proofs.Waiting.Execution
import ScopedWork.Proofs.Waiting.Program
import ScopedWork.Proofs.Tracking
import ScopedWork.Proofs.Coherent
import ScopedWork.Proofs.FailedSave
import ScopedWork.Proofs.AutoFlush
import ScopedWork.Proofs.Rejected
import ScopedWork.Proofs.Disposal
import ScopedWork.Proofs.Undisturbed
import ScopedWork.Proofs.Usable
import ScopedWork.Proofs.Backoff
import ScopedWork.Proofs.Pending

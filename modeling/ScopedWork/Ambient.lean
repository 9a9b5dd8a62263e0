import ScopedWork.Options

/-!
# The ambient chain

Scopes nest by being pushed onto a chain: each entry knows the value it makes ambient and
the name of that value's type, its parent (the head when it was pushed) and whether it was
deactivated. The ambient value of a type is the value of the first live entry of that type
from the head. Deactivating an entry marks it and pops the dead entries off the head,
whatever their types, so deactivating out of order only hides the entry until the entries
above it go too.

The chain also counts the external transactions that are open: scoped work refuses to
start a transaction of its own while one is.

Entries live in one table shared by every chain; a chain is only a head pointer. An
asynchronous flow starts from a copy of the chain it was started from, so that what it
pushes stays invisible to its caller.
-/

namespace ScopedWork

/-- An entry of the ambient chain: the value it makes ambient and the name of its type. -/
structure Node where
  kind : String
  value : Nat
  parent : Option Nat
  disposed : Bool := false
  deriving Repr, Inhabited

/-- A chain: its head entry and the number of open external transactions. -/
structure Chain where
  head : Option Nat := none
  external : Nat := 0
  deriving Repr, Inhabited

namespace Chain

/-- The first live entry at or below an entry, following parents. Parents are always older
entries, so `fuel` equal to the number of entries is enough. -/
def liveFrom (nodes : Array Node) : Nat → Option Nat → Option Nat
  | 0, _ => none
  | _, none => none
  | fuel + 1, some i =>
    let n := nodes.getD i default
    if n.disposed then liveFrom nodes fuel n.parent else some i

/-- The first live entry of the chain. -/
def live (c : Chain) (nodes : Array Node) : Option Nat := liveFrom nodes nodes.size c.head

/-- The first live entry of type `kind` at or below an entry, following parents. -/
def findFrom (nodes : Array Node) (kind : String) : Nat → Option Nat → Option Nat
  | 0, _ => none
  | _, none => none
  | fuel + 1, some i =>
    let n := nodes.getD i default
    if !n.disposed && n.kind == kind then some i else findFrom nodes kind fuel n.parent

/-- The ambient value of type `kind`: that of the first live entry of that type. -/
def current (c : Chain) (nodes : Array Node) (kind : String) : Option Nat :=
  (findFrom nodes kind nodes.size c.head).map fun i => (nodes.getD i default).value

/-- The chain with its dead entries popped off the head. -/
def popDead (c : Chain) (nodes : Array Node) : Chain := { c with head := c.live nodes }

end Chain

end ScopedWork

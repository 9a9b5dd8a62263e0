import ScopedWork.Store.Change

/-!
# The change tracker

A context remembers the entities it has seen: added ones, loaded ones (with the version
they were loaded at and their baseline value), and what was done to them since. Saving
turns the pending entries into a change log, in ascending key order: an insert for an
added entity, a checked update for a modified one, a checked delete for a deleted one.

An unchanged entity whose current value differs from its baseline is *implicitly
modified*: change detection finds it although nobody reported the edit.

A failed operation leaves the tracker as it was.
-/

namespace ScopedWork

/-- What is to be done with a tracked entity on the next save. -/
inductive EntityState where
  | detached
  | unchanged
  | added
  | modified
  | deleted
  deriving Repr, DecidableEq, Inhabited

namespace EntityState

/-- Whether a save has something to write for an entity in this state. -/
def isPending : EntityState → Bool
  | added | modified | deleted => true
  | _ => false

def name : EntityState → String
  | detached => "Detached"
  | unchanged => "Unchanged"
  | added => "Added"
  | modified => "Modified"
  | deleted => "Deleted"

def ofName? : String → Option EntityState
  | "Detached" => some detached
  | "Unchanged" => some unchanged
  | "Added" => some added
  | "Modified" => some modified
  | "Deleted" => some deleted
  | _ => none

end EntityState

/-- A tracked entity. -/
structure Tracked where
  state : EntityState
  baseline : Option Value
  current : Value
  version : Nat
  deriving Repr

namespace Tracked

/-- Unchanged by report, yet its value moved away from the loaded one. -/
def implicitlyModified (e : Tracked) : Bool :=
  e.state == .unchanged &&
    match e.baseline with
    | some v => !v.same e.current
    | none => true

/-- Whether a save would write this entity. -/
def pending (e : Tracked) : Bool := e.state.isPending || e.implicitlyModified

/-- The change a save writes for this entity, if any. -/
def change (k : Key) (e : Tracked) : Option Change :=
  match e.state with
  | .added => some (.insert k.1 k.2 e.current)
  | .modified => some (.update k.1 k.2 e.current (some e.version))
  | .deleted => some (.delete k.1 k.2 (some e.version))
  | .unchanged => if e.implicitlyModified then some (.update k.1 k.2 e.current (some e.version)) else none
  | .detached => none

/-- A written entity after the save: unchanged, its value now the baseline, at `version`. -/
def settled (e : Tracked) (version : Nat) : Tracked :=
  { state := .unchanged, baseline := some e.current, current := e.current, version }

/-- The entry after a successful save: every written entity settles at its new version (1
for an insert, one more for an update); the others stay as they were. -/
def accepted (e : Tracked) : Tracked :=
  match e.state with
  | .added => e.settled 1
  | .modified => e.settled (e.version + 1)
  | .unchanged => if e.implicitlyModified then e.settled (e.version + 1) else e
  | _ => e

end Tracked

/-- The order of keys: by table name, then by id. -/
def Key.lt (a b : Key) : Bool := a.1 < b.1 || (a.1 == b.1 && a.2 < b.2)

/-- Tracked entities in ascending key order, one per key. -/
structure Tracker where
  entries : List (Key × Tracked) := []
  deriving Repr, Inhabited

namespace Tracker

/-- Insert an entry at its place in key order. -/
def insertSorted (k : Key) (e : Tracked) : List (Key × Tracked) → List (Key × Tracked)
  | [] => [(k, e)]
  | (j, f) :: rest => if Key.lt k j then (k, e) :: (j, f) :: rest else (j, f) :: insertSorted k e rest

def find? (t : Tracker) (k : Key) : Option Tracked :=
  (t.entries.find? (·.1 == k)).map (·.2)

def isTracked (t : Tracker) (k : Key) : Bool := (t.find? k).isSome

def size (t : Tracker) : Nat := t.entries.length

/-- Replace the entry of a tracked key. -/
def put (t : Tracker) (k : Key) (e : Tracked) : Tracker :=
  { entries := t.entries.map fun p => if p.1 == k then (k, e) else p }

def alreadyTracked (k : Key) : Fault :=
  .invalid ("Another entity with key " ++ toString k.2 ++ " in table '" ++ k.1 ++
    "' is already being tracked")

def notTracked (k : Key) : Fault :=
  .invalid ("Entity " ++ toString k.2 ++ " in table '" ++ k.1 ++ "' is not being tracked")

def markedForDeletion (k : Key) : Fault :=
  .invalid ("Entity " ++ toString k.2 ++ " in table '" ++ k.1 ++ "' is marked for deletion")

/-- Start tracking a new entity, to be inserted. -/
def trackAdded (t : Tracker) (k : Key) (v : Value) : Except Fault Tracker :=
  if t.isTracked k then .error (alreadyTracked k)
  else .ok { entries := insertSorted k ⟨.added, none, v, 0⟩ t.entries }

/-- Start tracking an entity loaded at a version. -/
def trackLoaded (t : Tracker) (k : Key) (v : Value) (version : Nat) : Except Fault Tracker :=
  if t.isTracked k then .error (alreadyTracked k)
  else .ok { entries := insertSorted k ⟨.unchanged, some v, v, version⟩ t.entries }

/-- Give a tracked entity a new value and mark it modified (an added one stays added). -/
def modify (t : Tracker) (k : Key) (v : Value) : Except Fault (Tracker × EntityState) :=
  match t.find? k with
  | none => .error (notTracked k)
  | some e =>
    if e.state == .deleted then .error (markedForDeletion k)
    else
      let state := if e.state == .added then .added else .modified
      .ok (t.put k { e with current := v, state }, state)

/-- Give a tracked entity a new value without reporting it. -/
def modifyUntracked (t : Tracker) (k : Key) (v : Value) : Except Fault Tracker :=
  match t.find? k with
  | none => .error (notTracked k)
  | some e => .ok (t.put k { e with current := v })

/-- Mark a tracked entity for deletion; an added one is simply forgotten (detached). -/
def remove (t : Tracker) (k : Key) : Except Fault (Tracker × EntityState) :=
  match t.find? k with
  | none => .error (notTracked k)
  | some e =>
    if e.state == .added then .ok ({ entries := t.entries.filter (·.1 != k) }, .detached)
    else .ok (t.put k { e with state := .deleted }, .deleted)

/-- Whether a save would write anything. -/
def hasPending (t : Tracker) : Bool := t.entries.any (·.2.pending)

/-- The change log a save writes, in ascending key order. -/
def detectChanges (t : Tracker) : List Change :=
  t.entries.filterMap fun (k, e) => Tracked.change k e

/-- The tracker after a successful save: deleted entries go, the others are unchanged at
their new versions. -/
def acceptChanges (t : Tracker) : Tracker :=
  { entries := (t.entries.filter (·.2.state != .deleted)).map fun (k, e) => (k, e.accepted) }

/-- Forget every entity. -/
def clear (_ : Tracker) : Tracker := {}

end Tracker

end ScopedWork

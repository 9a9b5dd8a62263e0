import ScopedWork.Value
import ScopedWork.Fault

/-!
# Rows, tables and changes

The store keeps tables of versioned rows. A row is addressed by its key, a table name and
an integer id; its version starts at 1 and grows by one with every update.

A change is an insert, an update or a delete. Updates and deletes may carry the version
they expect to find (optimistic concurrency): a mismatch, or a row that is gone, is a
conflict. Without an expected version an update or delete of a missing row affects nothing.

Tables are association lists from keys to rows with at most one entry per key; `Tables.get?`
is their view, and `get?_set` / `get?_erase` say what writing does to it.
-/

namespace ScopedWork

/-- A table name and a row id. -/
abbrev Key := String × Int

/-- A stored row: its value and its version. -/
structure Row where
  value : Value
  version : Nat
  deriving Repr, DecidableEq

/-- The rows of all tables, one entry per key. -/
abbrev Tables := List (Key × Row)

namespace Tables

/-- The row stored under a key. -/
def get? : Tables → Key → Option Row
  | [], _ => none
  | (a, r) :: ts, k => if a = k then some r else get? ts k

/-- Store a row under a key, replacing any row there. -/
def set (ts : Tables) (k : Key) (r : Row) : Tables :=
  (k, r) :: ts.filter (·.1 != k)

/-- Remove the row under a key. -/
def erase (ts : Tables) (k : Key) : Tables :=
  ts.filter (·.1 != k)

/-- The number of rows of a table. -/
def count (ts : Tables) (table : String) : Nat :=
  (ts.filter (·.1.1 == table)).length

theorem get?_filter_ne (ts : Tables) (k j : Key) :
    get? (ts.filter (·.1 != k)) j = if j = k then none else get? ts j := by
  induction ts with
  | nil => simp [get?]
  | cons p ts ih =>
    obtain ⟨a, r⟩ := p
    by_cases hak : a = k
    · subst hak
      simp only [List.filter_cons, bne_self_eq_false, Bool.false_eq_true, ite_false, ih, get?]
      by_cases hj : j = a
      · simp [hj]
      · simp [hj, Ne.symm hj]
    · simp only [List.filter_cons, bne_iff_ne, ne_eq, hak, not_false_eq_true, ite_true, get?, ih]
      by_cases hja : a = j
      · subst hja; simp [hak]
      · simp [hja]

@[simp] theorem get?_set (ts : Tables) (k j : Key) (r : Row) :
    (ts.set k r).get? j = if j = k then some r else ts.get? j := by
  unfold set; simp only [get?, get?_filter_ne]
  by_cases hj : j = k
  · subst hj; simp
  · simp [hj, Ne.symm hj]

@[simp] theorem get?_erase (ts : Tables) (k j : Key) :
    (ts.erase k).get? j = if j = k then none else ts.get? j :=
  get?_filter_ne ts k j

end Tables

/-- A write to one row. -/
inductive Change where
  | insert (table : String) (id : Int) (value : Value)
  | update (table : String) (id : Int) (value : Value) (expected : Option Nat)
  | delete (table : String) (id : Int) (expected : Option Nat)
  deriving Repr, DecidableEq

namespace Change

def table : Change → String
  | insert t _ _ => t
  | update t _ _ _ => t
  | delete t _ _ => t

def key : Change → Key
  | insert t i _ => (t, i)
  | update t i _ _ => (t, i)
  | delete t i _ => (t, i)

/-- A checked update or delete of a row that is no longer there. -/
def vanished (t : String) (i : Int) : Fault :=
  .conflict ("Row " ++ toString i ++ " in table '" ++ t ++ "' no longer exists")

/-- A checked update or delete of a row at another version. -/
def moved (t : String) (i : Int) (expected found : Nat) : Fault :=
  .conflict ("Row " ++ toString i ++ " in table '" ++ t ++ "' was modified (expected version " ++
    toString expected ++ ", found " ++ toString found ++ ")")

/-- An insert of a key that is taken. -/
def duplicate (t : String) (i : Int) : Fault :=
  .constraint ("Duplicate key " ++ toString i ++ " in table '" ++ t ++ "'")

/-- The version check of an update or delete. -/
def check (t : String) (i : Int) (row : Row) : Option Nat → Except Fault Unit
  | some v => if v = row.version then .ok () else .error (moved t i v row.version)
  | none => .ok ()

/-- Apply a change to tables, giving the tables after it and the number of rows it
affected. -/
def apply (c : Change) (ts : Tables) : Except Fault (Tables × Nat) :=
  match c with
  | insert t i v =>
    match ts.get? (t, i) with
    | some _ => .error (duplicate t i)
    | none => .ok (ts.set (t, i) ⟨v, 1⟩, 1)
  | update t i v e =>
    match ts.get? (t, i) with
    | none => if e.isSome then .error (vanished t i) else .ok (ts, 0)
    | some row => do
      check t i row e
      return (ts.set (t, i) ⟨v, row.version + 1⟩, 1)
  | delete t i e =>
    match ts.get? (t, i) with
    | none => if e.isSome then .error (vanished t i) else .ok (ts, 0)
    | some row => do
      check t i row e
      return (ts.erase (t, i), 1)

/-- Apply changes in order, adding up the rows they affected; the first failure stops. -/
def applyAll : List Change → Tables → Except Fault (Tables × Nat)
  | [], ts => .ok (ts, 0)
  | c :: cs, ts => do
    let (ts, n) ← c.apply ts
    let (ts, m) ← applyAll cs ts
    return (ts, n + m)

end Change

end ScopedWork

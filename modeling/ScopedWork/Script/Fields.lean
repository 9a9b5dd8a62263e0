import ScopedWork.Doc

/-!
# Scripts: reading fields

A request is read field by field, each when it is needed. A field that is required and
missing, or present with the wrong shape, refuses the whole request with a reason:

* `missing field 'k'` when a required field is absent;
* `field 'k' must be a string` (an `i64`, a `u64`, a `bool`, an `array`) when it has the
  wrong type;
* `expected an array` when a list that is not a field of its own is something else;
* a short reason of its own (`bad isolation level`) when a field that names one value of
  an enumeration names none.

Optional flags are false when absent or null, but a flag that is set must be a boolean.
-/

namespace ScopedWork

namespace Script

/-- A reading that may be refused with a reason. -/
abbrev Reading := Except String

/-- A field that must be present. -/
def need (d : Doc) (k : String) : Reading Doc :=
  match d.get? k with
  | some v => .ok v
  | none => .error ("missing field '" ++ k ++ "'")

/-- The reason given for a field of the wrong type. -/
def mustBe (k what : String) : String := "field '" ++ k ++ "' must be " ++ what

/-- A required text. -/
def textField (d : Doc) (k : String) : Reading String := do
  match (← need d k).str? with
  | some s => pure s
  | none => throw (mustBe k "a string")

/-- A required signed 64-bit integer. -/
def i64Field (d : Doc) (k : String) : Reading Int := do
  match (← need d k).i64? with
  | some i => pure i
  | none => throw (mustBe k "an i64")

/-- A required unsigned 64-bit integer. -/
def u64Field (d : Doc) (k : String) : Reading Nat := do
  match (← need d k).u64? with
  | some n => pure n
  | none => throw (mustBe k "a u64")

/-- A flag: `dflt` when absent or null; otherwise it must be a boolean. -/
def flagOr (d : Doc) (k : String) (dflt : Bool) : Reading Bool :=
  match d.get? k with
  | none => .ok dflt
  | some .null => .ok dflt
  | some (.bool b) => .ok b
  | some _ => .error (mustBe k "a bool")

/-- A flag that is false when absent. -/
def flag (d : Doc) (k : String) : Reading Bool := flagOr d k false

/-- A setting that is a boolean if anything: `dflt` unless the field holds a boolean. -/
def switchOr (d : Doc) (k : String) (dflt : Bool) : Bool :=
  ((d.get? k).bind Doc.bool?).getD dflt

/-- The items of a list. -/
def items : Doc → Reading (List Doc)
  | .arr xs => .ok xs
  | _ => .error "expected an array"

/-- A required list under `k`. -/
def listField (d : Doc) (k : String) : Reading (List Doc) := do
  match ← need d k with
  | .arr xs => pure xs
  | _ => throw (mustBe k "an array")

/-- A required name of an enumeration under `k`, read by `ofName?`: once the field is
there, anything but a text that names a value is refused with `reason`. -/
def enumField {α : Type} (d : Doc) (k reason : String) (ofName? : String → Option α) :
    Reading α := do
  match (← need d k).str? >>= ofName? with
  | some a => pure a
  | none => throw reason

/-- An optional name of an enumeration under `k`: none when absent or null; otherwise a
text that names a value, or the field is refused with `reason`. -/
def optionalEnumField {α : Type} (d : Doc) (k reason : String)
    (ofName? : String → Option α) : Reading (Option α) :=
  match d.get? k with
  | none => .ok none
  | some .null => .ok none
  | some v => match v.str? >>= ofName? with
    | some a => .ok (some a)
    | none => .error reason

/-- A required text under `k` that must be one of the names `ofName?` knows, or the field
is refused with `reason`. -/
def kindField {α : Type} (d : Doc) (k reason : String) (ofName? : String → Option α) :
    Reading α := do
  match ofName? (← textField d k) with
  | some a => pure a
  | none => throw reason

/-- Whether a list holds the number `n` among its unsigned integers; other items do not
count. -/
def listsNumber (xs : List Doc) (n : Nat) : Bool := xs.any (·.u64? == some n)

end Script

end ScopedWork

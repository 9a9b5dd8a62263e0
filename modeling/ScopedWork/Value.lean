import ScopedWork.Binary64

/-!
# Entity values

The payload of a row and of a tracked entity: null, a 64-bit integer, a floating-point
number, a text or a boolean.

Equality is the store's own: a NaN equals a NaN (so that an unchanged NaN is not an edit),
the two zeros are equal, and an integer never equals a float.
-/

namespace ScopedWork

/-- A value stored in a row. -/
inductive Value where
  | null
  | integer (i : Int)
  | float (x : Binary64)
  | text (s : String)
  | boolean (b : Bool)
  deriving Repr, DecidableEq

namespace Value

/-- The name of the value's type, in upper case. -/
def typeName : Value → String
  | null => "NULL"
  | integer _ => "INTEGER"
  | float _ => "FLOAT"
  | text _ => "TEXT"
  | boolean _ => "BOOLEAN"

def asInt? : Value → Option Int
  | integer i => some i
  | _ => none

def asText? : Value → Option String
  | text s => some s
  | _ => none

def isNull : Value → Bool
  | null => true
  | _ => false

/-- The store's equality of values. -/
def same : Value → Value → Bool
  | null, null => true
  | integer a, integer b => a == b
  | float a, float b => a.ieeeEq b || (a.isNaN && b.isNaN)
  | text a, text b => a == b
  | boolean a, boolean b => a == b
  | _, _ => false

/-- The display text: `NULL`, the number, a text in single quotes, `true` or `false`. -/
def display : Value → String
  | null => "NULL"
  | integer i => toString i
  | float x => x.text
  | text s => "'" ++ s ++ "'"
  | boolean b => if b then "true" else "false"

end Value

end ScopedWork

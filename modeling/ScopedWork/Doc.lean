import ScopedWork.Binary64

/-!
# Documents

The data that requests, options and answers are made of has the shape of JSON: null,
booleans, numbers, texts, arrays and objects.

A number is kept the way a JSON reader of the usual kind keeps it: an integer that fits in
64 bits unsigned, a negative integer that fits in 64 bits signed, or else a binary64
float. So a number written with a fraction or an exponent stays a float even when it is
integral, and which float a text stands for is settled once, when the text is read.
-/

namespace ScopedWork

/-- A number of a document. -/
inductive Number where
  /-- An integer in `[0, 2 ^ 64)`. -/
  | pos (n : Nat)
  /-- An integer in `[-2 ^ 63, 0)`. -/
  | neg (i : Int)
  | float (x : Binary64)
  deriving Repr, DecidableEq

namespace Number

/-- The number as an unsigned 64-bit integer, if it is one. -/
def u64? : Number → Option Nat
  | pos n => some n
  | _ => none

/-- The number as a signed 64-bit integer, if it is one. -/
def i64? : Number → Option Int
  | pos n => if n < Nat.pow 2 63 then some n else none
  | neg i => some i
  | float _ => none

/-- The number as a float: an integer is rounded to the nearest float. -/
def toBinary64 : Number → Binary64
  | pos n => Binary64.ofNat n
  | neg i => (Binary64.ofNat i.natAbs).withSign true
  | float x => x

end Number

/-- A JSON-shaped document. -/
inductive Doc where
  | null
  | bool (b : Bool)
  | num (n : Number)
  | str (s : String)
  | arr (items : List Doc)
  | obj (fields : List (String × Doc))
  deriving Repr, Inhabited

namespace Doc

/-- A natural number as a document. -/
def nat (n : Nat) : Doc := num (.pos n)

/-- An integer as a document. -/
def int (i : Int) : Doc := if 0 ≤ i then nat i.toNat else num (.neg i)

/-- A float as a document. -/
def float (x : Binary64) : Doc := num (.float x)

/-- A field of an object. -/
def get? : Doc → String → Option Doc
  | obj fs, k => (fs.find? (·.1 == k)).map (·.2)
  | _, _ => none

/-- A field of an object that is present and not null. -/
def field? (d : Doc) (k : String) : Option Doc :=
  match d.get? k with
  | some null => none
  | r => r

/-- The number of a document, if it is one. -/
def num? : Doc → Option Number
  | num n => some n
  | _ => none

/-- An unsigned 64-bit integer. -/
def u64? (d : Doc) : Option Nat := d.num? >>= Number.u64?

/-- A signed 64-bit integer. -/
def i64? (d : Doc) : Option Int := d.num? >>= Number.i64?

def str? : Doc → Option String
  | str s => some s
  | _ => none

def bool? : Doc → Option Bool
  | bool b => some b
  | _ => none

def arr? : Doc → Option (List Doc)
  | arr xs => some xs
  | _ => none

def isNull : Doc → Bool
  | null => true
  | _ => false

/-- An optional value as a document, null when absent. -/
def ofOption {α : Type} (f : α → Doc) : Option α → Doc
  | some a => f a
  | none => null

end Doc

end ScopedWork

import ScopedWork.Decimal.Shortest

/-!
# Binary64 numbers by their bit pattern

Entity values may be floating-point numbers. They are kept as the 64-bit IEEE 754 pattern,
so that comparing, reading and printing them is plain natural-number arithmetic that a
proof can follow: a sign bit, an 11-bit exponent field and a 52-bit fraction.

* `Binary64.text` writes the shortest decimal that reads back, always in positional
  notation, without a trailing `.0`, and `NaN`, `inf`, `-inf` for the special values.
* `Binary64.ofDecimal` rounds a decimal to the nearest number, a tie to the even one.
* `Binary64.ofText?` reads a floating-point literal.
* `Binary64.mul` and `Binary64.div` round exact products and quotients; `Binary64.jsonText`
  writes a number as a JSON writer does.
-/

namespace ScopedWork

/-- An IEEE 754 binary64 number, by its bit pattern. -/
structure Binary64 where
  bits : UInt64
  deriving DecidableEq, Repr

namespace Binary64

/-- The 52 fraction bits. -/
def fraction (x : Binary64) : Nat := x.bits.toNat % Nat.pow 2 52

/-- The 11-bit biased exponent field. -/
def exponentField (x : Binary64) : Nat := (x.bits.toNat / Nat.pow 2 52) % Nat.pow 2 11

/-- The sign bit. -/
def negative (x : Binary64) : Bool := Nat.pow 2 63 ≤ x.bits.toNat

def isNaN (x : Binary64) : Bool := x.exponentField == 2047 && x.fraction != 0

def isInfinite (x : Binary64) : Bool := x.exponentField == 2047 && x.fraction == 0

def isZero (x : Binary64) : Bool := x.exponentField == 0 && x.fraction == 0

/-- The quiet NaN that the readers produce. -/
def nan : Binary64 := ⟨0x7FF8000000000000⟩

def infinity : Binary64 := ⟨0x7FF0000000000000⟩

def negInfinity : Binary64 := ⟨0xFFF0000000000000⟩

def zero : Binary64 := ⟨0⟩

def negZero : Binary64 := ⟨0x8000000000000000⟩

/-- The same magnitude with the sign bit set as given. -/
def withSign (x : Binary64) (neg : Bool) : Binary64 :=
  ⟨UInt64.ofNat (x.bits.toNat % Nat.pow 2 63 + if neg then Nat.pow 2 63 else 0)⟩

/-- IEEE equality: a NaN equals nothing, the two zeros are equal, all else by pattern. -/
def ieeeEq (x y : Binary64) : Bool :=
  if x.isNaN || y.isNaN then false
  else if x.isZero && y.isZero then true
  else x.bits == y.bits

/-- The significand and binary exponent of a finite number: `m * 2 ^ q`. -/
def significand (x : Binary64) : Nat × Int :=
  if x.exponentField == 0 then (x.fraction, -1074)
  else (x.fraction + Nat.pow 2 52, (x.exponentField : Int) - 1075)

/-- The text of a number: shortest round-trip digits (of two equally near, the upper one)
in positional notation. -/
def text (x : Binary64) : String :=
  if x.isNaN then "NaN"
  else
    let sign := if x.negative then "-" else ""
    if x.isInfinite then sign ++ "inf"
    else if x.isZero then sign ++ "0"
    else
      let (m, q) := x.significand
      let narrowBelow := x.fraction == 0 && 1 < x.exponentField
      let (d, t) := Decimal.shortest m q narrowBelow false
      sign ++ Decimal.positional d t

/-- `⌊log₂ (num / den)⌋` for a positive ratio: the two `log2`s leave one comparison. -/
def floorLog2 (num den : Nat) : Int :=
  let e : Int := (num.log2 : Int) - (den.log2 : Int)
  if Decimal.Ratio.le (Decimal.Ratio.dyadic 1 e) ⟨num, den⟩ then e else e - 1

/-- `num / den` rounded to the nearest natural number, a tie to the even one. -/
def roundHalfEven (num den : Nat) : Nat :=
  let q := num / den
  let r := num % den
  if 2 * r < den then q
  else if den < 2 * r then q + 1
  else if q % 2 == 0 then q else q + 1

/-- The nearest binary64 number to `num / den` (positive), a tie to the even one; too large a
ratio becomes infinity and too small a one zero. -/
def ofRatio (num den : Nat) : Binary64 :=
  if num == 0 || den == 0 then zero
  else
    let q := max (floorLog2 num den - 52) (-1074)
    let m := if 0 ≤ q then roundHalfEven num (den * Nat.pow 2 q.toNat)
      else roundHalfEven (num * Nat.pow 2 (-q).toNat) den
    -- rounding up may carry into the next binade
    let (m, q) := if m == Nat.pow 2 53 then (Nat.pow 2 52, q + 1) else (m, q)
    if Nat.pow 2 52 ≤ m then
      let field := q + 1075
      if 2047 ≤ field then infinity
      else ⟨UInt64.ofNat (field.toNat * Nat.pow 2 52 + (m - Nat.pow 2 52))⟩
    else ⟨UInt64.ofNat m⟩

/-- The nearest binary64 number to `±d * 10 ^ t`. A value of `10 ^ 309` or more is past
the largest finite number and one below `10 ^ -324` is nearer to zero than to the least
subnormal, so neither needs the exact ratio, whose size follows `t`. -/
def ofDecimal (neg : Bool) (d : Nat) (t : Int) : Binary64 :=
  let magnitude : Int := (Nat.repr d).length + t
  if d == 0 then zero.withSign neg
  else if 309 < magnitude then infinity.withSign neg
  else if magnitude < -324 then zero.withSign neg
  else
    let r := Decimal.Ratio.decimal d t
    (ofRatio r.num r.den).withSign neg

/-- The nearest number to a natural number, a tie to the even one: the conversion of an
integer to a float. -/
def ofNat (n : Nat) : Binary64 := ofRatio n 1

/-- The product of two finite numbers, rounded to the nearest number; a product too large
for a finite number is infinite. -/
def mul (x y : Binary64) : Binary64 :=
  let (mx, qx) := x.significand
  let (my, qy) := y.significand
  let r := Decimal.Ratio.dyadic (mx * my) (qx + qy)
  (ofRatio r.num r.den).withSign (x.negative != y.negative)

/-- The quotient of a finite number by a finite non-zero number, rounded to the nearest
number. -/
def div (x y : Binary64) : Binary64 :=
  let (mx, qx) := x.significand
  let (my, qy) := y.significand
  let r := Decimal.Ratio.dyadic mx (qx - qy)
  (ofRatio r.num (r.den * my)).withSign (x.negative != y.negative)

/-- The text a JSON writer gives a number: the shortest digits that read back (of two
equally near, the one ending in an even digit), positional
with at least one decimal (`100.0`, `0.001`) from `10 ^ -5` up to `10 ^ 16`, and in
exponent form (`1e+300`, `1.5e-7`) outside that range. -/
def jsonText (x : Binary64) : String :=
  if x.isNaN then "NaN"
  else
    let sign := if x.negative then "-" else ""
    if x.isInfinite then sign ++ "inf"
    else if x.isZero then sign ++ "0.0"
    else
      let (m, q) := x.significand
      let narrowBelow := x.fraction == 0 && 1 < x.exponentField
      let (d, t) := Decimal.shortest m q narrowBelow true
      sign ++ Decimal.compact d t

/-- The value of a string of decimal digits, if it is one. -/
def digitsValue? (cs : List Char) : Option Nat :=
  if cs.all Char.isDigit then
    some (cs.foldl (fun n c => 10 * n + (c.toNat - '0'.toNat)) 0)
  else none

/-- A decimal literal without sign: digits, an optional point with digits, an optional
exponent; at least one digit before the exponent. -/
def unsignedLiteral? (cs : List Char) : Option (Nat × Int) := do
  let mantissa := cs.takeWhile (fun c => c != 'e' && c != 'E')
  let rest := cs.dropWhile (fun c => c != 'e' && c != 'E')
  let whole := mantissa.takeWhile (· != '.')
  let frac := (mantissa.dropWhile (· != '.')).drop 1
  if whole.isEmpty && frac.isEmpty then none
  if (mantissa.filter (· == '.')).length > 1 then none
  let d ← digitsValue? (whole ++ frac)
  let e : Int ← match rest with
    | [] => some 0
    | _ :: exp =>
      match exp with
      | '+' :: ds => if ds.isEmpty then none else (digitsValue? ds).map Int.ofNat
      | '-' :: ds => if ds.isEmpty then none else (digitsValue? ds).map (fun n => -(n : Int))
      | ds => if ds.isEmpty then none else (digitsValue? ds).map Int.ofNat
  return (d, e - frac.length)

/-- Read a floating-point literal: an optional sign, then `inf`, `infinity` or `nan` in any
case, or a decimal literal. -/
def ofText? (s : String) : Option Binary64 :=
  let cs := s.toList
  let (neg, body) := match cs with
    | '-' :: r => (true, r)
    | '+' :: r => (false, r)
    | r => (false, r)
  let word := String.ofList (body.map Char.toLower)
  if word == "inf" || word == "infinity" then
    some (if neg then negInfinity else infinity)
  else if word == "nan" then some nan
  else (unsignedLiteral? body).map fun (d, t) => ofDecimal neg d t

end Binary64

end ScopedWork

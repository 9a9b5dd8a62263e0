/-!
# Shortest decimal digits of a dyadic number

A finite binary64 number is `m * 2 ^ q`. Every real number strictly inside the half-way
points to its two neighbours reads back as the same number, and so do the half-way points
themselves when `m` is even (a tie goes to the even neighbour). This module finds, in exact
natural-number arithmetic, the decimal `d * 10 ^ t` with the fewest significant digits in
that interval, and of two such decimals the one nearer to the number.

On a grid `10 ^ t` the only candidates worth testing are the two grid points around the
number: if any point of the grid lies in the interval, one of those two does, since the
interval contains the number. Scanning the grids from one significant digit up to
seventeen therefore finds the shortest decimal; seventeen digits always suffice for
binary64.
-/

namespace ScopedWork.Decimal

/-- A non-negative rational number as numerator and denominator. -/
structure Ratio where
  num : Nat
  den : Nat

namespace Ratio

/-- `n * 2 ^ e` as a ratio. -/
def dyadic (n : Nat) (e : Int) : Ratio :=
  if 0 ≤ e then ⟨n * Nat.pow 2 e.toNat, 1⟩ else ⟨n, Nat.pow 2 (-e).toNat⟩

/-- `d * 10 ^ t` as a ratio. -/
def decimal (d : Nat) (t : Int) : Ratio :=
  if 0 ≤ t then ⟨d * Nat.pow 10 t.toNat, 1⟩ else ⟨d, Nat.pow 10 (-t).toNat⟩

/-- `a ≤ b`, by cross multiplication. -/
def le (a b : Ratio) : Bool := a.num * b.den ≤ b.num * a.den

/-- `a < b`, by cross multiplication. -/
def lt (a b : Ratio) : Bool := a.num * b.den < b.num * a.den

/-- The largest `f` with `f * 10 ^ t ≤ a`. -/
def floorOnGrid (a : Ratio) (t : Int) : Nat :=
  if 0 ≤ t then a.num / (a.den * Nat.pow 10 t.toNat) else (a.num * Nat.pow 10 (-t).toNat) / a.den

end Ratio

/-- The number of decimal digits of a positive natural number. -/
def digitCount (n : Nat) : Nat := (Nat.toDigits 10 n).length

/-- The decimal exponent `e` with `10 ^ e ≤ a < 10 ^ (e + 1)`, for a positive ratio.

With `n` digits in the numerator and `k` in the denominator the ratio lies strictly between
`10 ^ (n - k - 1)` and `10 ^ (n - k + 1)`, so one comparison settles it. -/
def leadingExponent (a : Ratio) : Int :=
  let e : Int := (digitCount a.num : Int) - (digitCount a.den : Int)
  if Ratio.le (Ratio.decimal 1 e) a then e else e - 1

/-- The interval of reals that read back as `m * 2 ^ q`, as the three points
`low`, `value`, `high`, all multiples of `2 ^ (q - 2)`.

The gap below is half as wide when `m` is the smallest normal significand and the exponent
is not the smallest, because the neighbour below then has a finer spacing. -/
structure Interval where
  low : Ratio
  value : Ratio
  high : Ratio
  closed : Bool

/-- The rounding interval of `m * 2 ^ q`; `narrowBelow` marks the finer gap below. -/
def Interval.around (m : Nat) (q : Int) (narrowBelow : Bool) : Interval :=
  { low := Ratio.dyadic (4 * m - (if narrowBelow then 1 else 2)) (q - 2)
    value := Ratio.dyadic (4 * m) (q - 2)
    high := Ratio.dyadic (4 * m + 2) (q - 2)
    closed := m % 2 == 0 }

/-- Whether `d * 10 ^ t` reads back as the number of the interval. -/
def Interval.holds (i : Interval) (d : Nat) (t : Int) : Bool :=
  let x := Ratio.decimal d t
  if i.closed then Ratio.le i.low x && Ratio.le x i.high
  else Ratio.lt i.low x && Ratio.lt x i.high

/-- The digits on the grid `10 ^ t` that read back, if any: of the two grid points around
the number the nearer one that lies in the interval. When both lie in it at the same
distance, `evenTies` picks the one with an even last digit, else the upper one. -/
def Interval.onGrid (i : Interval) (evenTies : Bool) (t : Int) : Option Nat :=
  let f := Ratio.floorOnGrid i.value t
  let below := i.holds f t
  let above := i.holds (f + 1) t
  if below && above then
    -- `2 v < (2 f + 1) 10^t` says the lower point is strictly nearer
    let twice : Ratio := ⟨2 * i.value.num, i.value.den⟩
    let middle := Ratio.decimal (2 * f + 1) t
    if Ratio.lt twice middle then some f
    else if evenTies && Ratio.le twice middle && f % 2 == 0 then some f
    else some (f + 1)
  else if below then some f
  else if above then some (f + 1)
  else none

/-- Drop trailing zero digits, raising the exponent. -/
def trimZeros (d : Nat) (t : Int) : Nat × Int :=
  if h : 0 < d ∧ d % 10 = 0 then trimZeros (d / 10) (t + 1) else (d, t)
termination_by d
decreasing_by omega

/-- The first grid, from `digits` significant digits up to seventeen, that holds a point of
the interval. -/
def Interval.scan (i : Interval) (evenTies : Bool) (lead : Int) :
    Nat → Nat → Option (Nat × Int)
  | 0, _ => none
  | fuel + 1, digits =>
    let t := lead + 1 - (digits : Int)
    match i.onGrid evenTies t with
    | some d => some (trimZeros d t)
    | none => i.scan evenTies lead fuel (digits + 1)

/-- The shortest decimal `(d, t)` with `d * 10 ^ t` reading back as `m * 2 ^ q`, for
`m > 0`; of two equally near, the upper one, or with `evenTies` the one ending in an even
digit. -/
def shortest (m : Nat) (q : Int) (narrowBelow : Bool) (evenTies : Bool) : Nat × Int :=
  let i := Interval.around m q narrowBelow
  let lead := leadingExponent i.value
  match i.scan evenTies lead 17 1 with
  | some r => r
  | none =>
    -- unreachable for binary64: seventeen digits always separate neighbours
    trimZeros (Ratio.floorOnGrid i.value (lead - 16)) (lead - 16)

/-- Positional text of `d * 10 ^ t`: the digits, padded with zeros or split by a point, never
an exponent. -/
def positional (d : Nat) (t : Int) : String :=
  let s := toString d
  if 0 ≤ t then s ++ String.ofList (List.replicate t.toNat '0')
  else
    let point : Int := (s.length : Int) + t
    if 0 < point then
      String.ofList (s.toList.take point.toNat) ++ "." ++ String.ofList (s.toList.drop point.toNat)
    else "0." ++ String.ofList (List.replicate (-point).toNat '0') ++ s

/-- The text of `d * 10 ^ t`, where `d` has no trailing zeros, as a JSON writer gives it.
With `k` the number of digits before the point (`10 ^ (k - 1) ≤ d * 10 ^ t < 10 ^ k`): an
integral number with `k ≤ 16` gets a `.0`, a number with `0 < k ≤ 16` a point among its
digits, a number with `-5 < k ≤ 0` leading zeros after `0.`, and every other number the
exponent form `d.ddde±(k - 1)`, the exponent always signed and never padded. -/
def compact (d : Nat) (t : Int) : String :=
  let s := toString d
  let length : Int := s.length
  let k := length + t
  if 0 ≤ t && k ≤ 16 then s ++ String.ofList (List.replicate t.toNat '0') ++ ".0"
  else if 0 < k && k ≤ 16 then
    String.ofList (s.toList.take k.toNat) ++ "." ++ String.ofList (s.toList.drop k.toNat)
  else if -5 < k && k ≤ 0 then "0." ++ String.ofList (List.replicate (-k).toNat '0') ++ s
  else
    let e := k - 1
    let exponent := "e" ++ (if 0 ≤ e then "+" else "") ++ toString e
    if length == 1 then s ++ exponent
    else String.ofList (s.toList.take 1) ++ "." ++ String.ofList (s.toList.drop 1) ++ exponent

end ScopedWork.Decimal

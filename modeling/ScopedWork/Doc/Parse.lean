import ScopedWork.Doc

/-!
# Reading JSON text

`Doc.parse` reads one JSON value, with nothing but white space around it, the way the usual
streaming reader for JSON does.

* Texts take the escapes `\" \\ \/ \b \f \n \r \t` and `\uXXXX`. A character outside the
  basic plane is written as a pair of escapes, a high surrogate then a low one; a
  surrogate on its own is refused, and so is a raw control character.
* Arrays and objects nest at most 127 deep. An object that names a key twice keeps the
  last value.
* An integer is kept exactly when it fits in 64 bits: unsigned, or signed when negative
  (`-0` is the float negative zero). Every other number is a float computed from a
  significand and a decimal exponent. The significand takes the digits while they fit in
  64 bits; later digits before the point raise the exponent, later digits after it are
  dropped. The significand is rounded to a float and then multiplied by the float nearest
  to `10 ^ e`, or divided by the float nearest to `10 ^ -e` (in steps of `10 ^ 308` while
  `-e` exceeds 308). Two roundings can miss the float nearest to the text by one step:
  `3e26` reads as `3.0000000000000003e26`. A number too large for a float is refused.
-/

namespace ScopedWork

namespace Doc.Reader

/-- The value of a decimal digit. -/
def digit (c : Char) : Nat := c.toNat - '0'.toNat

/-- Whether `s * 10 + d` leaves the unsigned 64-bit integers. -/
def overflows (s d : Nat) : Bool := Nat.pow 2 64 - 1 < s * 10 + d

/-- The float nearest to `10 ^ k`. -/
def pow10 (k : Nat) : Binary64 := Binary64.ofDecimal false 1 k

/-- Divide by `10 ^ (-e)` for `e < 0`: at once when `-e ≤ 308`, else by `10 ^ 308` first,
stopping early at zero. -/
def scaleDown (f : Binary64) (e : Int) : Binary64 :=
  if -e ≤ 308 then f.div (pow10 (-e).toNat)
  else if f.isZero then f
  else scaleDown (f.div (pow10 308)) (e + 308)
termination_by (-e).toNat
decreasing_by omega

/-- `±significand * 10 ^ exponent` as the reader computes it; `none` when it is too large
for a float. -/
def fromParts (positive : Bool) (significand : Nat) (exponent : Int) : Option Binary64 :=
  let f := Binary64.ofNat significand
  let r : Option Binary64 :=
    if 0 ≤ exponent then
      if exponent ≤ 308 then
        let g := f.mul (pow10 exponent.toNat)
        if g.isInfinite then none else some g
      else if f.isZero then some f
      else none
    else some (scaleDown f exponent)
  r.map fun g => if positive then g else g.withSign true

/-- A decimal exponent kept within the signed 32-bit integers. -/
def saturate (e : Int) : Int := max (-Int.pow 2 31) (min (Int.pow 2 31 - 1) e)

/-- Skip digits. -/
def skipDigits : List Char → List Char
  | c :: rest => if c.isDigit then skipDigits rest else c :: rest
  | [] => []

/-- The digits of an exponent after its sign, `exp` so far; an exponent beyond the signed
32-bit integers makes the number zero, or too large when it is positive and the
significand is not zero. -/
def exponentDigits (positive : Bool) (s : Nat) (start : Int) (up : Bool) (exp : Nat) :
    List Char → Option (Binary64 × List Char)
  | c :: rest =>
    if c.isDigit then
      if Nat.pow 2 31 - 1 < exp * 10 + digit c then
        if s != 0 && up then none
        else some ((if positive then Binary64.zero else Binary64.negZero), skipDigits rest)
      else exponentDigits positive s start up (exp * 10 + digit c) rest
    else
      (fromParts positive s (saturate (if up then start + exp else start - exp))).map
        fun x => (x, c :: rest)
  | [] => (fromParts positive s (saturate (if up then start + exp else start - exp))).map
        fun x => (x, [])

/-- An exponent, after its `e`: a sign, then at least one digit. -/
def exponent (positive : Bool) (s : Nat) (start : Int) (cs : List Char) :
    Option (Binary64 × List Char) :=
  let (up, rest) := match cs with
    | '+' :: r => (true, r)
    | '-' :: r => (false, r)
    | r => (true, r)
  match rest with
  | c :: more => if c.isDigit then exponentDigits positive s start up (digit c) more else none
  | [] => none

/-- After the digits of a number: an exponent, or the end of the number. -/
def finishFloat (positive : Bool) (s : Nat) (e : Int) : List Char → Option (Binary64 × List Char)
  | 'e' :: rest => exponent positive s e rest
  | 'E' :: rest => exponent positive s e rest
  | cs => (fromParts positive s e).map fun x => (x, cs)

/-- The digits after a point, `after` of them read so far. -/
def fractionDigits (positive : Bool) (s : Nat) (e0 : Int) (after : Nat) :
    List Char → Option (Binary64 × List Char)
  | c :: rest =>
    if c.isDigit then
      if overflows s (digit c) then finishFloat positive s (e0 - after) (skipDigits (c :: rest))
      else fractionDigits positive (s * 10 + digit c) e0 (after + 1) rest
    else if after == 0 then none
    else finishFloat positive s (e0 - after) (c :: rest)
  | [] => if after == 0 then none else finishFloat positive s (e0 - after) []

/-- The integral digits that no longer fit: each raises the exponent. -/
def longInteger (positive : Bool) (s : Nat) (e : Int) : List Char → Option (Binary64 × List Char)
  | c :: rest =>
    if c.isDigit then longInteger positive s (e + 1) rest
    else if c == '.' then fractionDigits positive s e 0 rest
    else finishFloat positive s e (c :: rest)
  | [] => finishFloat positive s e []

/-- A number whose integral digits are all read, as `s`. -/
def afterInteger (positive : Bool) (s : Nat) : List Char → Option (Number × List Char)
  | '.' :: rest => (fractionDigits positive s 0 0 rest).map fun (x, r) => (.float x, r)
  | 'e' :: rest => (exponent positive s 0 rest).map fun (x, r) => (.float x, r)
  | 'E' :: rest => (exponent positive s 0 rest).map fun (x, r) => (.float x, r)
  | cs =>
    if positive then some (.pos s, cs)
    else if 0 < s && s ≤ Nat.pow 2 63 then some (.neg (-(s : Int)), cs)
    else some (.float ((Binary64.ofNat s).withSign true), cs)

/-- The integral digits of a number, `s` so far. -/
def integerDigits (positive : Bool) (s : Nat) : List Char → Option (Number × List Char)
  | c :: rest =>
    if c.isDigit then
      if overflows s (digit c) then
        (longInteger positive s 0 (c :: rest)).map fun (x, r) => (.float x, r)
      else integerDigits positive (s * 10 + digit c) rest
    else afterInteger positive s (c :: rest)
  | [] => afterInteger positive s []

/-- A number after its sign: `0`, or a non-zero digit and more digits, then a fraction and
an exponent. -/
def number (positive : Bool) : List Char → Option (Number × List Char)
  | '0' :: rest =>
    match rest with
    | c :: _ => if c.isDigit then none else afterInteger positive 0 rest
    | [] => afterInteger positive 0 []
  | c :: rest => if c.isDigit then integerDigits positive (digit c) rest else none
  | [] => none

/-- The value of a hexadecimal digit. -/
def hexDigit? (c : Char) : Option Nat :=
  if c.isDigit then some (digit c)
  else if 'a' ≤ c && c ≤ 'f' then some (c.toNat - 'a'.toNat + 10)
  else if 'A' ≤ c && c ≤ 'F' then some (c.toNat - 'A'.toNat + 10)
  else none

/-- Four hexadecimal digits. -/
def hex4 (a b c d : Char) : Option Nat := do
  return (((← hexDigit? a) * 16 + (← hexDigit? b)) * 16 + (← hexDigit? c)) * 16 + (← hexDigit? d)

/-- Whether a code unit is a high surrogate. -/
def isHigh (n : Nat) : Bool := 0xD800 ≤ n && n ≤ 0xDBFF

/-- Whether a code unit is a low surrogate. -/
def isLow (n : Nat) : Bool := 0xDC00 ≤ n && n ≤ 0xDFFF

/-- The rest of a text after its opening quote; `acc` holds the characters so far, last
first. -/
def text (acc : List Char) : List Char → Option (String × List Char)
  | [] => none
  | '"' :: rest => some (String.ofList acc.reverse, rest)
  | '\\' :: '"' :: rest => text ('"' :: acc) rest
  | '\\' :: '\\' :: rest => text ('\\' :: acc) rest
  | '\\' :: '/' :: rest => text ('/' :: acc) rest
  | '\\' :: 'b' :: rest => text ('\x08' :: acc) rest
  | '\\' :: 'f' :: rest => text ('\x0c' :: acc) rest
  | '\\' :: 'n' :: rest => text ('\n' :: acc) rest
  | '\\' :: 'r' :: rest => text ('\r' :: acc) rest
  | '\\' :: 't' :: rest => text ('\t' :: acc) rest
  | '\\' :: 'u' :: a :: b :: c :: d :: rest =>
    match hex4 a b c d with
    | none => none
    | some n =>
      if isLow n then none
      else if isHigh n then
        match rest with
        | '\\' :: 'u' :: e :: f :: g :: h :: more =>
          match hex4 e f g h with
          | some m =>
            if isLow m then text (Char.ofNat ((n - 0xD800) * 1024 + (m - 0xDC00) + 0x10000) :: acc) more
            else none
          | none => none
        | _ => none
      else text (Char.ofNat n :: acc) rest
  | '\\' :: _ => none
  | c :: rest => if c.toNat < 0x20 then none else text (c :: acc) rest

/-- Skip white space: blanks, tabs, line feeds and carriage returns. -/
def skipSpace : List Char → List Char
  | c :: rest => if c == ' ' || c == '\t' || c == '\n' || c == '\r' then skipSpace rest else c :: rest
  | [] => []

/-- The fields of an object, keeping for each key the last value given: the list holds
the fields last first, and `seen` the keys already kept. -/
def lastFields (seen : List String) : List (String × Doc) → List (String × Doc)
  | [] => []
  | (k, v) :: rest =>
    if seen.contains k then lastFields seen rest else (k, v) :: lastFields (k :: seen) rest

mutual
/-- A value; `room` is how many more levels of arrays and objects may open plus one, and
`fuel` bounds the work by the length of the text. -/
def value : Nat → Nat → List Char → Option (Doc × List Char)
  | 0, _, _ => none
  | fuel + 1, room, cs =>
    match skipSpace cs with
    | 'n' :: 'u' :: 'l' :: 'l' :: rest => some (.null, rest)
    | 't' :: 'r' :: 'u' :: 'e' :: rest => some (.bool true, rest)
    | 'f' :: 'a' :: 'l' :: 's' :: 'e' :: rest => some (.bool false, rest)
    | '"' :: rest => (text [] rest).map fun (s, r) => (.str s, r)
    | '-' :: rest => (number false rest).map fun (n, r) => (.num n, r)
    | '[' :: rest =>
      if room ≤ 1 then none
      else match skipSpace rest with
        | ']' :: more => some (.arr [], more)
        | _ => items fuel (room - 1) [] rest
    | '{' :: rest =>
      if room ≤ 1 then none
      else match skipSpace rest with
        | '}' :: more => some (.obj [], more)
        | _ => members fuel (room - 1) [] rest
    | c :: rest => if c.isDigit then (number true (c :: rest)).map fun (n, r) => (.num n, r) else none
    | [] => none

/-- The items of an array from the next one on; `acc` holds those read, last first. -/
def items : Nat → Nat → List Doc → List Char → Option (Doc × List Char)
  | 0, _, _, _ => none
  | fuel + 1, room, acc, cs =>
    match value fuel room cs with
    | none => none
    | some (x, rest) =>
      match skipSpace rest with
      | ',' :: more => items fuel room (x :: acc) more
      | ']' :: more => some (.arr (x :: acc).reverse, more)
      | _ => none

/-- The fields of an object from the next one on; `acc` holds those read, last first. -/
def members : Nat → Nat → List (String × Doc) → List Char → Option (Doc × List Char)
  | 0, _, _, _ => none
  | fuel + 1, room, acc, cs =>
    match skipSpace cs with
    | '"' :: rest =>
      match text [] rest with
      | none => none
      | some (k, afterKey) =>
        match skipSpace afterKey with
        | ':' :: afterColon =>
          match value fuel room afterColon with
          | none => none
          | some (x, rest) =>
            match skipSpace rest with
            | ',' :: more => members fuel room ((k, x) :: acc) more
            | '}' :: more => some (.obj (lastFields [] ((k, x) :: acc)).reverse, more)
            | _ => none
        | _ => none
    | _ => none
end

end Doc.Reader

namespace Doc

/-- Read a text holding one JSON value; `none` if it does not. -/
def parse (s : String) : Option Doc :=
  let cs := s.toList
  match Reader.value (2 * cs.length + 2) 128 cs with
  | some (d, rest) => if (Reader.skipSpace rest).isEmpty then some d else none
  | none => none

end Doc

end ScopedWork

import ScopedWork.Doc

/-!
# Writing JSON text

`Doc.render` writes a document as compact JSON: no white space, the fields of an object in
the order of their keys, texts with quotes, backslashes and control characters escaped and
every other character written as itself. An integer is written in decimal and a float
with `Binary64.jsonText`, so a float always shows a point or an exponent (`100.0`,
`1e300`, `-0.0`) and reads back as a float; a float that is not finite is written `null`.
-/

namespace ScopedWork

namespace Doc.Writer

/-- A hexadecimal digit, lower case. -/
def hexChar (n : Nat) : Char :=
  if n < 10 then Char.ofNat ('0'.toNat + n) else Char.ofNat ('a'.toNat + n - 10)

/-- A character as it stands inside a JSON text. -/
def escaped (c : Char) : List Char :=
  if c == '"' then ['\\', '"']
  else if c == '\\' then ['\\', '\\']
  else if c == '\n' then ['\\', 'n']
  else if c == '\r' then ['\\', 'r']
  else if c == '\t' then ['\\', 't']
  else if c == '\x08' then ['\\', 'b']
  else if c == '\x0c' then ['\\', 'f']
  else if c.toNat < 0x20 then ['\\', 'u', '0', '0', hexChar (c.toNat / 16), hexChar (c.toNat % 16)]
  else [c]

/-- A text as a JSON string. -/
def quote (s : String) : String :=
  String.ofList ('"' :: (s.toList.flatMap escaped ++ ['"']))

/-- A number as JSON text. -/
def number : Number → String
  | .pos n => toString n
  | .neg i => toString i
  | .float x => if x.isNaN || x.isInfinite then "null" else x.jsonText

/-- Insert a field into fields sorted by key. -/
def insertField (f : String × String) : List (String × String) → List (String × String)
  | [] => [f]
  | g :: rest => if f.1 < g.1 then f :: g :: rest else g :: insertField f rest

/-- Join texts with commas. -/
def joinCommas : List String → String
  | [] => ""
  | [s] => s
  | s :: rest => s ++ "," ++ joinCommas rest

end Doc.Writer

namespace Doc

open Writer in
mutual
/-- A document as compact JSON text. -/
def render : Doc → String
  | null => "null"
  | bool b => if b then "true" else "false"
  | num n => Writer.number n
  | str s => quote s
  | arr xs => "[" ++ joinCommas (renderItems xs) ++ "]"
  | obj fs =>
    let sorted := (renderFields fs).foldr insertField []
    "\x7b" ++ joinCommas (sorted.map fun (k, v) => quote k ++ ":" ++ v) ++ "\x7d"

/-- The texts of items. -/
def renderItems : List Doc → List String
  | [] => []
  | x :: xs => render x :: renderItems xs

/-- The texts of fields, by key. -/
def renderFields : List (String × Doc) → List (String × String)
  | [] => []
  | (k, x) :: fs => (k, render x) :: renderFields fs
end

end Doc

end ScopedWork

import Treasury.Binary64

/-!
# JSON documents

A document as a tree. Whole numbers are kept exactly, other numbers as binary ones. The
members of an object are kept in the order in which they stand, also two of one name: what
that means is for the reader of the document to say. `Json.sorted` gives a document the one
form it is stored and shown in when it has no reader of its own: members in order of their
names, the last of one name.

`Json.render` writes a document in the least space.
-/

namespace Treasury

/-- A document or a part of one. -/
inductive Json where
  | null
  | bool (value : Bool)
  | int (value : Int)
  | real (value : Binary64)
  | text (value : String)
  | array (items : List Json)
  | object (members : List (String × Json))
  deriving Repr

namespace Json

/-! ## Numbers -/

/-- Writes a magnitude of `digits * 10 ^ power`: in plain form with at least one place from
`10 ^ -5` to below `10 ^ 16`, otherwise as one digit, a fraction and an exponent with its
sign. -/
def realMagnitudeText (digits : Nat) (power : Int) : String :=
  let ds := (toString digits).toList
  let point := (ds.length : Int) + power
  if digits = 0 then "0.0"
  else if 0 ≤ power ∧ point ≤ 16 then
    String.ofList (ds ++ List.replicate power.toNat '0' ++ ['.', '0'])
  else if power < 0 ∧ -5 < point ∧ point ≤ 16 then
    Decimal.magnitudeText digits (-power).toNat
  else
    let mantissa := match ds with
      | [] => []
      | [d] => [d]
      | d :: rest => d :: '.' :: rest
    let mark := if 1 ≤ point then "e+" else "e"
    String.ofList mantissa ++ mark ++ toString (point - 1)

/-- Writes a binary number by its shortest digits. -/
def realText (x : Binary64) : String :=
  let (digits, power) := x.shortest
  let magnitude := realMagnitudeText digits power
  if x.negative then "-" ++ magnitude else magnitude

/-! ## Text -/

/-- How a character stands inside quotes. -/
def escape (c : Char) : List Char :=
  if c = '\"' then ['\\', '\"']
  else if c = '\\' then ['\\', '\\']
  else if c = '\x08' then ['\\', 'b']
  else if c = '\t' then ['\\', 't']
  else if c = '\n' then ['\\', 'n']
  else if c = '\x0c' then ['\\', 'f']
  else if c = '\r' then ['\\', 'r']
  else if c.toNat < 0x20 then
    let hex (n : Nat) : Char := if n < 10 then Char.ofNat (48 + n) else Char.ofNat (87 + n)
    ['\\', 'u', '0', '0', hex (c.toNat / 16), hex (c.toNat % 16)]
  else [c]

/-- Text in quotes. -/
def quote (text : String) : List Char :=
  '\"' :: text.toList.flatMap escape ++ ['\"']

/-! ## Documents -/

mutual

/-- The characters of a document. -/
def chars : Json → List Char
  | null => ['n', 'u', 'l', 'l']
  | bool true => ['t', 'r', 'u', 'e']
  | bool false => ['f', 'a', 'l', 's', 'e']
  | int n => (toString n).toList
  | real x => (realText x).toList
  | text s => quote s
  | array items => '[' :: itemChars items ++ [']']
  | object members => '\x7b' :: memberChars members ++ ['\x7d']

/-- The items of an array with commas between them. -/
def itemChars : List Json → List Char
  | [] => []
  | [item] => chars item
  | item :: rest => chars item ++ ',' :: itemChars rest

/-- The members of an object with commas between them. -/
def memberChars : List (String × Json) → List Char
  | [] => []
  | [(name, value)] => quote name ++ ':' :: chars value
  | (name, value) :: rest => quote name ++ ':' :: chars value ++ ',' :: memberChars rest

end

/-- Writes a document in the least space. -/
def render (document : Json) : String := String.ofList document.chars

end Json

end Treasury

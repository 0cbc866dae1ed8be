import Treasury.Decimal.Text
import Treasury.Settings.Name.Basic
import Treasury.Text.Hex

/-!
# Hosts of addresses on the net

A host is a name or a numeric address. Names are put into the form that name servers know.
A name whose last label is then a number is an address of four bytes. Addresses of eight words
stand in brackets and are written with the longest run of zeros left out.
-/

namespace Treasury.Host

open Name (splitOn)

/-! ## Percent signs -/

/-- The bytes of text in which `%` and two digits stand for a byte. -/
def percentDecode : List Char → List UInt8
  | '%' :: a :: b :: rest =>
    match Hex.digit? a, Hex.digit? b with
    | some h, some l => UInt8.ofNat (16 * h + l) :: percentDecode rest
    | _, _ => 0x25 :: percentDecode (a :: b :: rest)
  | c :: rest => (String.singleton c).toUTF8.toList ++ percentDecode rest
  | [] => []
termination_by cs => cs.length

/-- A byte as `%` and two capital digits. -/
def percentByte (b : UInt8) : List Char :=
  let digit (n : Nat) : Char := if n < 10 then Char.ofNat (48 + n) else Char.ofNat (55 + n)
  ['%', digit (b.toNat / 16), digit (b.toNat % 16)]

/-- Writes the characters of which `p` holds, and all beyond ASCII, as bytes with `%`. -/
def percentEncode (p : Char → Bool) (cs : List Char) : List Char :=
  cs.flatMap fun c =>
    if p c ∨ 0x7E < c.toNat then (String.singleton c).toUTF8.toList.flatMap percentByte else [c]

/-- True of control characters. -/
def isControl (c : Char) : Bool := c.toNat ≤ 0x1F ∨ 0x7F ≤ c.toNat

/-- True of the characters that no host can hold. -/
def isForbidden (c : Char) : Bool :=
  ['\x00', '\t', '\n', '\r', ' ', '#', '/', ':', '<', '>', '?', '@', '[', '\\', ']', '^',
    '|'].contains c

/-- True of the characters that no name can hold. -/
def isForbiddenInName (c : Char) : Bool := isForbidden c ∨ c.toNat ≤ 0x1F ∨ c = '%' ∨ c = '\x7f'

/-! ## Addresses of four bytes -/

/-- A number that may be hexadecimal or octal. -/
def number? : List Char → Option Nat
  | '0' :: 'x' :: ds | '0' :: 'X' :: ds => ds.foldlM (fun n c => (Hex.digit? c).map (16 * n + ·)) 0
  | '0' :: d :: ds =>
    (d :: ds).foldlM (fun n c =>
      (Decimal.digit? c).bind fun k => if k < 8 then some (8 * n + k) else none) 0
  | ds => Decimal.natural? ds

/-- The parts of a name, without an empty one at the end. -/
def nameParts (name : List Char) : List (List Char) :=
  let parts := splitOn (· = '.') name
  if parts.getLast? = some [] ∧ 1 < parts.length then parts.dropLast else parts

/-- True of a name whose last part is a number. -/
def endsInNumber (name : List Char) : Bool :=
  match (nameParts name).getLast? with
  | none => false
  | some last =>
    (last ≠ [] ∧ last.all Char.isDigit) ∨
      ((last.take 2 = ['0', 'x'] ∨ last.take 2 = ['0', 'X']) ∧ (number? last).isSome)

/-- Bytes with points between them. -/
def dotted (n : Nat) : List Char :=
  (".".intercalate ([n / 0x1000000 % 256, n / 0x10000 % 256, n / 0x100 % 256, n % 256].map
    toString)).toList

/-- An address of four bytes; the last part fills what is left. -/
def address4? (name : List Char) : Option Nat := do
  let parts := nameParts name
  if 4 < parts.length then none
  else
    let numbers ← parts.mapM fun part => if part.isEmpty then none else number? part
    let last ← numbers.getLast?
    let others := numbers.dropLast
    if others.any (255 < ·) ∨ Nat.pow 256 (5 - numbers.length) ≤ last then none
    else
      return others.zipIdx.foldl (fun n (part, i) => n + part * Nat.pow 256 (3 - i)) last

/-! ## Addresses of eight words -/

/-- One to four hexadecimal digits. -/
def word? (ds : List Char) : Option Nat :=
  if ds.isEmpty ∨ 4 < ds.length then none
  else ds.foldlM (fun n c => (Hex.digit? c).map (16 * n + ·)) 0

/-- The words between colons; the last part may be an address of four bytes. -/
def words? (cs : List Char) : Option (List Nat) :=
  if cs.isEmpty then some []
  else
    let parts := splitOn (· = ':') cs
    let last := parts.getLast?.getD []
    if last.contains '.' then do
      let fields := splitOn (· = '.') last
      let bytes ← fields.mapM fun field =>
        if (field.take 1 = ['0'] ∧ field ≠ ['0']) ∨ 3 < field.length then none
        else Decimal.natural? field
      match bytes with
      | [a, b, c, d] =>
        if 255 < a ∨ 255 < b ∨ 255 < c ∨ 255 < d then none
        else return (← parts.dropLast.mapM word?) ++ [256 * a + b, 256 * c + d]
      | _ => none
    else parts.mapM word?

/-- Splits at the first two colons in a row. -/
def splitGap : List Char → Option (List Char × List Char)
  | ':' :: ':' :: rest => some ([], rest)
  | c :: rest => (splitGap rest).map fun (before, after) => (c :: before, after)
  | [] => none

/-- The eight words of an address. -/
def address6? (cs : List Char) : Option (List Nat) :=
  match splitGap cs with
  | none => (words? cs).bind fun ws => if ws.length = 8 then some ws else none
  | some (before, after) => do
    if before.contains '.' then none
    else
      let front ← words? before
      let back ← words? after
      if front.length + back.length < 8 then
        return front ++ List.replicate (8 - front.length - back.length) 0 ++ back
      else none

/-- How many zeros a list starts with. -/
def leadingZeros (ws : List Nat) : Nat := (ws.takeWhile (· = 0)).length

/-- Where the longest run of at least two zeros starts, and how long it is. -/
def longestZeros (ws : List Nat) : Nat × Nat :=
  (List.range 8).foldl (fun best i =>
    let run := leadingZeros (ws.drop i)
    if 1 < run ∧ best.2 < run then (i, run) else best) (0, 0)

/-- Words with colons between them. -/
def colons (ws : List Nat) : String :=
  ":".intercalate (ws.map fun n => String.ofList (Nat.toDigits 16 n))

/-- An address of eight words as it is written. -/
def address6Text (ws : List Nat) : List Char :=
  let (start, run) := longestZeros ws
  let text :=
    if run = 0 then colons ws
    else colons (ws.take start) ++ "::" ++ colons (ws.drop (start + run))
  '[' :: text.toList ++ [']']

/-! ## Hosts -/

/-- A name or address of four bytes. -/
def name? (cs : List Char) : Option (List Char) :=
  match String.fromUTF8? (percentDecode cs).toByteArray with
  | none => none
  | some decoded =>
    (Name.toAscii? decoded.toList).bind fun name =>
      if name.isEmpty ∨ name.any isForbiddenInName then none
      else if endsInNumber name then (address4? name).map dotted
      else some name

/-- The host of an address whose scheme is known. -/
def parse? (cs : List Char) : Option (List Char) :=
  match cs with
  | '[' :: rest =>
    if rest.getLast? = some ']' then (address6? rest.dropLast).map address6Text else none
  | _ => name? cs

/-- The host of an address whose scheme is not known, which is left as it is. -/
def verbatim? (cs : List Char) : Option (List Char) :=
  match cs with
  | '[' :: rest =>
    if rest.getLast? = some ']' then (address6? rest.dropLast).map address6Text else none
  | _ => if cs.any isForbidden then none else some (percentEncode isControl cs)

end Treasury.Host

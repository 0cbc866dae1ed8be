import Treasury.Json.Parse
import Treasury.Text.NameMap

/-!
# Reading values out of documents

A reader takes a document and gives a value or says what does not match. A record is read
from an object, in which members of other names are passed over and a name may not stand
twice, or from an array with the fields in order, in which fields at the end may be missing
if they have a default. A map is read from an object, where the last of two equal names
counts.
-/

namespace Treasury

namespace Json

/-- Why a document is not of the form that was asked for. -/
inductive Mismatch where
  | wrongType (found : String) (expected : String)
  | wrongValue (found : String) (expected : String)
  | wrongLength (length : Nat) (expected : String)
  | missing (field : String)
  | duplicate (field : String)
  | unknownVariant (found : String) (expected : String)
  | other (sentence : String)
  deriving DecidableEq, Repr

/-- The wording of a mismatch. -/
def Mismatch.message : Mismatch → String
  | wrongType found expected => s!"invalid type: {found}, expected {expected}"
  | wrongValue found expected => s!"invalid value: {found}, expected {expected}"
  | wrongLength length expected => s!"invalid length {length}, expected {expected}"
  | missing field => "missing field \x60" ++ field ++ "\x60"
  | duplicate field => "duplicate field \x60" ++ field ++ "\x60"
  | unknownVariant found expected =>
    "unknown variant \x60" ++ found ++ "\x60, expected \x60" ++ expected ++ "\x60"
  | other sentence => sentence

/-- What a mismatch calls a document. -/
def kind : Json → String
  | null => "null"
  | bool true => "boolean \x60true\x60"
  | bool false => "boolean \x60false\x60"
  | int n => "integer \x60" ++ toString n ++ "\x60"
  | real x => "floating point \x60" ++ realText x ++ "\x60"
  | text s => "string " ++ String.ofList (quote s)
  | array _ => "sequence"
  | object _ => "map"

/-- A way to read a value. -/
abbrev Reader (α : Type) := Json → Except Mismatch α

namespace Reader

/-- Text. -/
def text : Reader String
  | .text s => .ok s
  | other => .error (.wrongType other.kind "a string")

/-- A whole number from `low` up to below `high`. -/
def whole (low high : Int) (name : String) : Reader Int
  | .int n =>
    if low ≤ n ∧ n < high then .ok n else .error (.wrongValue (Json.int n).kind name)
  | other => .error (.wrongType other.kind name)

/-- A whole number of at most sixty-four bits. -/
def uint64 : Reader UInt64 := fun document =>
  (whole 0 UInt64.size "u64" document).map fun n => UInt64.ofNat n.toNat

/-- A whole number of at most eight bits. -/
def uint8 : Reader UInt8 := fun document =>
  (whole 0 UInt8.size "u8" document).map fun n => UInt8.ofNat n.toNat

/-- A signed whole number of sixty-four bits. -/
def int64 : Reader Int := whole (-0x8000000000000000) 0x8000000000000000 "i64"

/-- True or false. -/
def bool : Reader Bool
  | .bool b => .ok b
  | other => .error (.wrongType other.kind "a boolean")

/-- A value, or nothing for `null`. -/
def option {α : Type} (read : Reader α) : Reader (Option α)
  | .null => .ok none
  | document => (read document).map some

/-- The values of an array. -/
def list {α : Type} (read : Reader α) : Reader (List α)
  | .array items => items.mapM read
  | other => .error (.wrongType other.kind "a sequence")

/-- The values of an object by their names. -/
def map {α : Type} (read : Reader α) : Reader (NameMap α)
  | .object members =>
    (members.mapM fun member => (read member.2).map fun value => (member.1, value)).map
      NameMap.ofList
  | other => .error (.wrongType other.kind "a map")

end Reader

/-! ## Records -/

/-- The fields of a record that are present. -/
structure Record where
  /-- What the record is called in a mismatch. -/
  title : String
  fields : List (String × Json)
  /-- The number of fields there can be. -/
  size : Nat
  /-- The record was written as an array. -/
  positional : Bool

/-- The first name that stands twice. -/
def firstRepeated? : List String → Option String
  | [] => none
  | name :: rest => if rest.contains name then some name else firstRepeated? rest

/-- How a mismatch counts elements. -/
def elementCount (n : Nat) : String :=
  if n = 1 then "1 element" else s!"{n} elements"

/-- Finds the fields `names` of a record in an object or an array. -/
def record (title : String) (names : List String) : Reader Record
  | .object members =>
    let known := members.filter fun member => names.contains member.1
    match firstRepeated? (known.map (·.1)) with
    | some name => .error (.duplicate name)
    | none => .ok ⟨title, known, names.length, false⟩
  | .array items =>
    if names.length < items.length then
      .error (.wrongLength items.length (elementCount names.length ++ " in sequence"))
    else .ok ⟨title, names.zip items, names.length, true⟩
  | other => .error (.wrongType other.kind title)

namespace Record

variable {α : Type}

/-- A field that has to be there. -/
def required (r : Record) (name : String) (read : Reader α) : Except Mismatch α :=
  match r.fields.lookup name with
  | some value => read value
  | none =>
    if r.positional then
      .error (.wrongLength r.fields.length (r.title ++ " with " ++ elementCount r.size))
    else .error (.missing name)

/-- A field that has a default. -/
def withDefault (r : Record) (name : String) (read : Reader α) (default : α) :
    Except Mismatch α :=
  match r.fields.lookup name with
  | some value => read value
  | none => .ok default

/-- A field that may be `null`, and that may be missing from an object. -/
def nullable (r : Record) (name : String) (read : Reader α) : Except Mismatch (Option α) :=
  if r.positional then r.required name (Reader.option read)
  else r.withDefault name (Reader.option read) none

end Record

/-! ## One form for free documents -/

mutual

/-- The document with the members of every object in order of their names; of two of one name
the last stays. -/
def sorted : Json → Json
  | object members => object (NameMap.ofList (sortedMembers members)).entries
  | array items => array (sortedItems items)
  | null => null
  | bool b => bool b
  | int n => int n
  | real x => real x
  | text s => text s

/-- The items of an array, each in its one form. -/
def sortedItems : List Json → List Json
  | [] => []
  | item :: rest => sorted item :: sortedItems rest

/-- The members of an object, each in its one form. -/
def sortedMembers : List (String × Json) → List (String × Json)
  | [] => []
  | (name, value) :: rest => (name, sorted value) :: sortedMembers rest

end

end Json

end Treasury

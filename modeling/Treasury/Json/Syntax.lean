/-!
# Faults in the text of a document

What can be wrong with a text that should be a JSON document, and where: faults are reported
by line and column, both counted from one, columns in bytes.
-/

namespace Treasury.Json

/-- What is wrong with the text. -/
inductive Fault where
  | endInArray
  | endInObject
  | endInText
  | endInValue
  | expectedColon
  | expectedCommaOrArrayEnd
  | expectedCommaOrObjectEnd
  | expectedWord
  | expectedValue
  | badEscape
  | badNumber
  | numberOutOfRange
  | controlCharacter
  | nameMustBeText
  | loneSurrogate
  | brokenSurrogatePair
  | trailingComma
  | trailingCharacters
  | tooDeep
  deriving DecidableEq, Repr

/-- The wording of a fault. -/
def Fault.message : Fault → String
  | endInArray => "EOF while parsing a list"
  | endInObject => "EOF while parsing an object"
  | endInText => "EOF while parsing a string"
  | endInValue => "EOF while parsing a value"
  | expectedColon => "expected \x60:\x60"
  | expectedCommaOrArrayEnd => "expected \x60,\x60 or \x60]\x60"
  | expectedCommaOrObjectEnd => "expected \x60,\x60 or \x60\x7d\x60"
  | expectedWord => "expected ident"
  | expectedValue => "expected value"
  | badEscape => "invalid escape"
  | badNumber => "invalid number"
  | numberOutOfRange => "number out of range"
  | controlCharacter => "control character (\\u0000-\\u001F) found while parsing a string"
  | nameMustBeText => "key must be a string"
  | loneSurrogate => "lone leading surrogate in hex escape"
  | brokenSurrogatePair => "unexpected end of hex escape"
  | trailingComma => "trailing comma"
  | trailingCharacters => "trailing characters"
  | tooDeep => "recursion limit exceeded"

/-- A fault at a distance, in bytes, from the start of the text. -/
structure Misprint where
  fault : Fault
  offset : Nat
  deriving DecidableEq, Repr

/-- The line and column reached after `offset` bytes of a text. -/
def lineColumn (text : String) (offset : Nat) : Nat × Nat :=
  let before := text.toUTF8.toList.take offset
  let lines := before.count 10
  let column := (before.reverse.takeWhile (· ≠ 10)).length
  (lines + 1, column)

/-- A sentence with the place it is about. -/
def withPlace (sentence text : String) (offset : Nat) : String :=
  let (line, column) := lineColumn text offset
  s!"{sentence} at line {line} column {column}"

/-- The sentence for a fault in `text`. -/
def Misprint.message (m : Misprint) (text : String) : String :=
  withPlace m.fault.message text m.offset

end Treasury.Json

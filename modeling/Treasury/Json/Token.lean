import Treasury.Json.Number
import Treasury.Text.Hex

/-!
# Tokens of documents

The text of a document is cut into brackets, commas, colons, texts, numbers and words by a
machine that takes one character at a time. A text that cannot be cut further ends in a
`broken` token, which says why; whether that is what is reported depends on what should
have stood there.
-/

namespace Treasury.Json

/-- One token. -/
inductive Token where
  | openArray
  | closeArray
  | openObject
  | closeObject
  | comma
  | colon
  | text (value : String)
  /-- A number, `null`, `true` or `false`. -/
  | scalar (value : Json)
  /-- No token, and why; the offset is where that shows. -/
  | broken (misprint : Misprint)
  deriving Repr

/-- A token with the offsets of its first byte and of the byte after it. -/
structure Located where
  token : Token
  start : Nat
  stop : Nat
  deriving Repr

namespace Lexer

/-- What is being read. -/
inductive Mode where
  /-- Nothing: the next token has not started. -/
  | between
  /-- A word of which `rest` is missing. -/
  | word (start : Nat) (value : Json) (rest : List Char)
  /-- Text; the characters read so far, backwards. -/
  | text (start : Nat) (read : List Char)
  /-- The character after a backslash. -/
  | escape (start : Nat) (read : List Char)
  /-- The digits of a code unit; `lead` is the first half of a pair. -/
  | unit (start : Nat) (read : List Char) (lead : Option Nat) (digits : List Char)
  /-- The backslash of the second half of a pair. -/
  | pairSlash (start : Nat) (read : List Char) (lead : Nat)
  /-- The letter after that backslash. -/
  | pairLetter (start : Nat) (read : List Char) (lead : Nat)
  /-- A number. -/
  | number (start : Nat) (scan : Scan)
  /-- Nothing more: the text is broken. -/
  | stopped

/-- Ends the reading with a broken token. -/
def fail (start : Nat) (fault : Fault) (offset : Nat) : List Located × Mode :=
  ([⟨.broken ⟨fault, offset⟩, start, offset⟩], .stopped)

/-- True of the characters between tokens. -/
def isSpace (c : Char) : Bool := c = ' ' ∨ c = '\n' ∨ c = '\t' ∨ c = '\r'

/-- Starts a token at its first character. -/
def start (offset : Nat) (c : Char) : List Located × Mode :=
  let single (token : Token) : List Located × Mode :=
    ([⟨token, offset, offset + 1⟩], .between)
  if isSpace c then ([], .between)
  else match c with
    | '[' => single .openArray
    | ']' => single .closeArray
    | '\x7b' => single .openObject
    | '\x7d' => single .closeObject
    | ',' => single .comma
    | ':' => single .colon
    | '\"' => ([], .text offset [])
    | 'n' => ([], .word offset .null ['u', 'l', 'l'])
    | 't' => ([], .word offset (.bool true) ['r', 'u', 'e'])
    | 'f' => ([], .word offset (.bool false) ['a', 'l', 's', 'e'])
    | '-' => ([], .number offset .afterSign)
    | _ =>
      match Decimal.digit? c with
      | some d => ([], .number offset (.firstDigit false d))
      | none => fail offset .expectedValue (offset + 1)

/-- The value of four hexadecimal digits. -/
def codeUnit? (digits : List Char) : Option Nat :=
  digits.foldlM (fun n c => (Hex.digit? c).map (16 * n + ·)) 0

/-- Takes the character after a backslash. -/
def escaped (start : Nat) (read : List Char) (offset : Nat) (c : Char) : List Located × Mode :=
  let plain (d : Char) : List Located × Mode := ([], .text start (d :: read))
  match c with
  | '\"' => plain '\"'
  | '\\' => plain '\\'
  | '/' => plain '/'
  | 'b' => plain '\x08'
  | 'f' => plain '\x0c'
  | 'n' => plain '\n'
  | 'r' => plain '\r'
  | 't' => plain '\t'
  | 'u' => ([], .unit start read none [])
  | _ => fail start .badEscape (offset + c.utf8Size)

/-- Takes a code unit that is complete. -/
def unitDone (start : Nat) (read : List Char) (lead : Option Nat) (n : Nat) (stop : Nat) :
    List Located × Mode :=
  match lead with
  | none =>
    if 0xDC00 ≤ n ∧ n ≤ 0xDFFF then fail start .loneSurrogate stop
    else if 0xD800 ≤ n ∧ n ≤ 0xDBFF then ([], .pairSlash start read n)
    else ([], .text start (Char.ofNat n :: read))
  | some first =>
    if 0xDC00 ≤ n ∧ n ≤ 0xDFFF then
      let code := 0x10000 + 0x400 * (first - 0xD800) + (n - 0xDC00)
      ([], .text start (Char.ofNat code :: read))
    else fail start .loneSurrogate stop

/-- Takes one character, which starts at `offset`. -/
def step (offset : Nat) (c : Char) : Mode → List Located × Mode
  | .between => start offset c
  | .word first value rest =>
    match rest with
    | [] => fail first .expectedWord (offset + 1)
    | d :: rest =>
      if c = d then
        if rest.isEmpty then ([⟨.scalar value, first, offset + 1⟩], .between)
        else ([], .word first value rest)
      else fail first .expectedWord (offset + 1)
  | .text first read =>
    if c = '\"' then
      ([⟨.text (String.ofList read.reverse), first, offset + 1⟩], .between)
    else if c = '\\' then ([], .escape first read)
    else if c.toNat < 0x20 then fail first .controlCharacter (offset + 1)
    else ([], .text first (c :: read))
  | .escape first read => escaped first read offset c
  | .unit first read lead digits =>
    let digits := digits ++ [c]
    if digits.length < 4 then ([], .unit first read lead digits)
    else match codeUnit? digits with
      | some n => unitDone first read lead n (offset + 1)
      | none => fail first .badEscape (offset + 1)
  | .pairSlash first read lead =>
    if c = '\\' then ([], .pairLetter first read lead)
    else fail first .brokenSurrogatePair (offset + 1)
  | .pairLetter first read lead =>
    if c = 'u' then ([], .unit first read (some lead) [])
    else fail first .brokenSurrogatePair (offset + 1)
  | .number first scan =>
    match scan.next c with
    | .more scan => ([], .number first scan)
    | .refuse fault => fail first fault (offset + 1)
    | .stop =>
      match scan.value with
      | .error fault => fail first fault offset
      | .ok value =>
        let (tokens, mode) := start offset c
        (⟨.scalar value, first, offset⟩ :: tokens, mode)
  | .stopped => ([], .stopped)

/-- Ends the text at `offset`. -/
def finish (offset : Nat) : Mode → List Located
  | .between => []
  | .stopped => []
  | .word first _ _ => [⟨.broken ⟨.endInValue, offset⟩, first, offset⟩]
  | .text first _ | .escape first _ | .unit first _ _ _ | .pairSlash first _ _
  | .pairLetter first _ _ => [⟨.broken ⟨.endInText, offset⟩, first, offset⟩]
  | .number first scan =>
    match scan.valueAtEnd with
    | .ok value => [⟨.scalar value, first, offset⟩]
    | .error fault => [⟨.broken ⟨fault, offset⟩, first, offset⟩]

/-- Cuts the rest of a text into tokens. -/
def run (offset : Nat) (mode : Mode) : List Char → List Located
  | [] => finish offset mode
  | c :: rest =>
    let (tokens, mode) := step offset c mode
    tokens ++ run (offset + c.utf8Size) mode rest

end Lexer

/-- The tokens of a text. -/
def tokens (text : String) : List Located := Lexer.run 0 .between text.toList

end Treasury.Json

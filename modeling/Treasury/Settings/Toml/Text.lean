import Treasury.Text.Hex

/-!
# Text in settings documents

What may stand between the words of a document, text in all four kinds of quotes, and keys.
Readers return what follows the part that they have read.
-/

namespace Treasury.Toml

/-! ## Between the words -/

/-- True of the blanks within a line. -/
def isBlank (c : Char) : Bool := c = ' ' ∨ c = '\t'

/-- Skips blanks within a line. -/
def skipBlanks (cs : List Char) : List Char := cs.dropWhile isBlank

/-- True of the characters that text and comments may hold. -/
def isPlain (c : Char) : Bool := c = '\t' ∨ (0x20 ≤ c.toNat ∧ c.toNat ≠ 0x7F)

/-- Skips a line break. -/
def newline? : List Char → Option (List Char)
  | '\n' :: rest => some rest
  | '\r' :: '\n' :: rest => some rest
  | _ => none

/-- Skips a comment, if one starts here. -/
def skipComment : List Char → List Char
  | '#' :: rest => rest.dropWhile isPlain
  | cs => cs

/-- Skips the rest of a line that has nothing more to say. -/
def lineEnd? (cs : List Char) : Option (List Char) :=
  match skipComment (skipBlanks cs) with
  | [] => some []
  | rest => newline? rest

/-- Skips blanks, line breaks and comments. -/
def skipLines (inComment : Bool) : List Char → List Char
  | [] => []
  | '\r' :: '\n' :: rest => skipLines false rest
  | c :: rest =>
    if c = '\n' then skipLines false rest
    else if inComment then if isPlain c then skipLines true rest else c :: rest
    else if isBlank c then skipLines false rest
    else if c = '#' then skipLines true rest
    else c :: rest

/-! ## Text in quotes -/

/-- The character with the code that hexadecimal digits give. -/
def codePoint? (digits : List Char) : Option Char :=
  (digits.foldlM (fun n c => (Hex.digit? c).map (16 * n + ·)) 0).bind fun n =>
    if n < 0xD800 ∨ (0xDFFF < n ∧ n < 0x110000) then some (Char.ofNat n) else none

/-- The character that a letter after a backslash stands for. -/
def escaped? (c : Char) : Option Char :=
  match c with
  | 'b' => some '\x08'
  | 't' => some '\t'
  | 'n' => some '\n'
  | 'f' => some '\x0c'
  | 'r' => some '\r'
  | '\x22' => some '\x22'
  | '\\' => some '\\'
  | _ => none

/-- Text that has been read, and what follows it. -/
abbrev Scanned := Option (String × List Char)

/-- Ends a text whose characters were gathered backwards. -/
def close (read rest : List Char) : Scanned := some (String.ofList read.reverse, rest)

/-- Text in double quotes on one line. -/
def basic (read : List Char) : List Char → Scanned
  | [] => none
  | '\\' :: 'u' :: a :: b :: c :: d :: rest =>
    match codePoint? [a, b, c, d] with
    | some code => basic (code :: read) rest
    | none => none
  | '\\' :: 'U' :: a :: b :: c :: d :: e :: f :: g :: h :: rest =>
    match codePoint? [a, b, c, d, e, f, g, h] with
    | some code => basic (code :: read) rest
    | none => none
  | '\\' :: c :: rest =>
    match escaped? c with
    | some code => basic (code :: read) rest
    | none => none
  | '\x22' :: rest => close read rest
  | c :: rest => if isPlain c then basic (c :: read) rest else none

/-- Text in single quotes on one line. -/
def literal (read : List Char) : List Char → Scanned
  | [] => none
  | '\x27' :: rest => close read rest
  | c :: rest => if isPlain c then literal (c :: read) rest else none

/-- What is done with blanks in text of several lines. -/
inductive Folding where
  /-- They are kept. -/
  | keep
  /-- A backslash was passed: only blanks may stand before the line ends. -/
  | toLineEnd
  /-- They are skipped up to the next character. -/
  | skip

/-- Text of several lines in double quotes. -/
def multiBasic (folding : Folding) (read : List Char) : List Char → Scanned
  | [] => none
  | '\r' :: '\n' :: rest =>
    match folding with
    | .keep => multiBasic .keep ('\n' :: read) rest
    | _ => multiBasic .skip read rest
  | '\\' :: 'u' :: a :: b :: c :: d :: rest =>
    match folding, codePoint? [a, b, c, d] with
    | .toLineEnd, _ => none
    | _, some code => multiBasic .keep (code :: read) rest
    | _, none => none
  | '\\' :: 'U' :: a :: b :: c :: d :: e :: f :: g :: h :: rest =>
    match folding, codePoint? [a, b, c, d, e, f, g, h] with
    | .toLineEnd, _ => none
    | _, some code => multiBasic .keep (code :: read) rest
    | _, none => none
  | '\\' :: '\r' :: '\n' :: rest =>
    match folding with
    | .toLineEnd => none
    | _ => multiBasic .skip read rest
  | '\\' :: c :: rest =>
    match folding, escaped? c with
    | .toLineEnd, _ => none
    | _, some code => multiBasic .keep (code :: read) rest
    | _, none =>
      if c = '\n' then multiBasic .skip read rest
      else if isBlank c then multiBasic .toLineEnd read rest
      else none
  | '\x22' :: '\x22' :: '\x22' :: '\x22' :: '\x22' :: rest =>
    match folding with
    | .toLineEnd => none
    | _ => close ('\x22' :: '\x22' :: read) rest
  | '\x22' :: '\x22' :: '\x22' :: '\x22' :: rest =>
    match folding with
    | .toLineEnd => none
    | _ => close ('\x22' :: read) rest
  | '\x22' :: '\x22' :: '\x22' :: rest =>
    match folding with
    | .toLineEnd => none
    | _ => close read rest
  | c :: rest =>
    match folding with
    | .keep =>
      if c = '\n' ∨ isPlain c then multiBasic .keep (c :: read) rest else none
    | .toLineEnd =>
      if c = '\n' then multiBasic .skip read rest
      else if isBlank c then multiBasic .toLineEnd read rest
      else none
    | .skip =>
      if c = '\n' ∨ isBlank c then multiBasic .skip read rest
      else if isPlain c then multiBasic .keep (c :: read) rest
      else none

/-- Text of several lines in single quotes. -/
def multiLiteral (read : List Char) : List Char → Scanned
  | [] => none
  | '\r' :: '\n' :: rest => multiLiteral ('\n' :: read) rest
  | '\x27' :: '\x27' :: '\x27' :: '\x27' :: '\x27' :: rest =>
    close ('\x27' :: '\x27' :: read) rest
  | '\x27' :: '\x27' :: '\x27' :: '\x27' :: rest => close ('\x27' :: read) rest
  | '\x27' :: '\x27' :: '\x27' :: rest => close read rest
  | c :: rest => if c = '\n' ∨ isPlain c then multiLiteral (c :: read) rest else none

/-- Without the line break right after the opening quotes. -/
def dropFirstBreak (cs : List Char) : List Char := (newline? cs).getD cs

/-! ## Keys -/

/-- True of the characters of a key without quotes. -/
def isBare (c : Char) : Bool :=
  ('a' ≤ c ∧ c ≤ 'z') ∨ ('A' ≤ c ∧ c ≤ 'Z') ∨ ('0' ≤ c ∧ c ≤ '9') ∨ c = '_' ∨ c = '-'

/-- One part of a key. -/
def keyPart : List Char → Scanned
  | '\x22' :: rest => basic [] rest
  | '\x27' :: rest => literal [] rest
  | cs =>
    let bare := cs.takeWhile isBare
    if bare.isEmpty then none else some (String.ofList bare, cs.dropWhile isBare)

/-- The parts of a key, at most `fuel` of them. -/
def keyParts : Nat → List Char → Option (List String × List Char)
  | 0, _ => none
  | fuel + 1, cs => do
    let (part, rest) ← keyPart (skipBlanks cs)
    match skipBlanks rest with
    | '.' :: rest =>
      let (parts, rest) ← keyParts fuel rest
      return (part :: parts, rest)
    | rest => return ([part], rest)

/-- A key, which has at most seventy-nine parts. -/
def key (cs : List Char) : Option (List String × List Char) := keyParts 79 cs

end Treasury.Toml

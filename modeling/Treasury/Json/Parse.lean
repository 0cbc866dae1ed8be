import Treasury.Json.Token

/-!
# Reading documents

`Json.parse` turns a text into a document. The parser is a machine over tokens: it keeps the
arrays and objects that are still open, innermost first, and what may come next. A document
may be nested at most 127 deep, and nothing may follow it.
-/

namespace Treasury.Json

/-- An array or object that is still open around a value to come; what it holds so far is
kept backwards. -/
inductive Frame where
  | array (items : List Json)
  | object (members : List (String × Json)) (name : String)

/-- What may come next. -/
inductive Parser where
  /-- A value. -/
  | atValue (frames : List Frame)
  /-- The first item of an array, or its end. -/
  | atFirstItem (frames : List Frame)
  /-- An item, after a comma. -/
  | atItem (frames : List Frame) (items : List Json)
  /-- A comma or the end of an array. -/
  | afterItem (frames : List Frame) (items : List Json)
  /-- The first name in an object, or its end. -/
  | atFirstName (frames : List Frame)
  /-- A name, after a comma. -/
  | atName (frames : List Frame) (members : List (String × Json))
  /-- The colon after a name. -/
  | atColon (frames : List Frame) (members : List (String × Json)) (name : String)
  /-- A comma or the end of an object. -/
  | afterMember (frames : List Frame) (members : List (String × Json))
  /-- Nothing: the document is complete. -/
  | done (document : Json)

namespace Parser

/-- The deepest nesting of a document. -/
def maxDepth : Nat := 127

/-- Puts a complete value where it belongs. -/
def deliver (value : Json) : List Frame → Parser
  | [] => .done value
  | .array items :: frames => .afterItem frames (value :: items)
  | .object members name :: frames => .afterMember frames ((name, value) :: members)

/-- A fault that shows at the first character of a token. -/
def unexpected (t : Located) (fault : Fault) : Except Misprint Parser :=
  .error ⟨fault, t.start + 1⟩

/-- Takes a token where a value has to come. -/
def takeValue (frames : List Frame) (t : Located) : Except Misprint Parser :=
  match t.token with
  | .scalar value => .ok (deliver value frames)
  | .text value => .ok (deliver (.text value) frames)
  | .openArray =>
    if frames.length < maxDepth then .ok (.atFirstItem frames) else unexpected t .tooDeep
  | .openObject =>
    if frames.length < maxDepth then .ok (.atFirstName frames) else unexpected t .tooDeep
  | .broken misprint => .error misprint
  | _ => unexpected t .expectedValue

/-- True of the faults inside quotes. -/
def inText : Fault → Bool
  | .endInText | .badEscape | .controlCharacter | .loneSurrogate | .brokenSurrogatePair => true
  | _ => false

/-- Takes a token where a name has to come. -/
def takeName (frames : List Frame) (members : List (String × Json)) (t : Located) :
    Except Misprint Parser :=
  match t.token with
  | .text name => .ok (.atColon frames members name)
  | .broken misprint =>
    if inText misprint.fault then .error misprint else unexpected t .nameMustBeText
  | _ => unexpected t .nameMustBeText

/-- Takes a token. -/
def take (p : Parser) (t : Located) : Except Misprint Parser :=
  match p, t.token with
  | .atValue frames, _ => takeValue frames t
  | .atFirstItem frames, .closeArray => .ok (deliver (.array []) frames)
  | .atFirstItem frames, _ => takeValue (.array [] :: frames) t
  | .atItem _ _, .closeArray => unexpected t .trailingComma
  | .atItem frames items, _ => takeValue (.array items :: frames) t
  | .afterItem frames items, .comma => .ok (.atItem frames items)
  | .afterItem frames items, .closeArray => .ok (deliver (.array items.reverse) frames)
  | .afterItem _ _, _ => unexpected t .expectedCommaOrArrayEnd
  | .atFirstName frames, .closeObject => .ok (deliver (.object []) frames)
  | .atFirstName frames, _ => takeName frames [] t
  | .atName _ _, .closeObject => unexpected t .trailingComma
  | .atName frames members, _ => takeName frames members t
  | .atColon frames members name, .colon => .ok (.atValue (.object members name :: frames))
  | .atColon _ _ _, _ => unexpected t .expectedColon
  | .afterMember frames members, .comma => .ok (.atName frames members)
  | .afterMember frames members, .closeObject =>
    .ok (deliver (.object members.reverse) frames)
  | .afterMember _ _, _ => unexpected t .expectedCommaOrObjectEnd
  | .done _, _ => unexpected t .trailingCharacters

/-- Ends the document after the last token. -/
def finish (p : Parser) : Except Fault Json :=
  match p with
  | .done document => .ok document
  | .atValue _ | .atItem _ _ | .atName _ _ => .error .endInValue
  | .atFirstItem _ | .afterItem _ _ => .error .endInArray
  | .atFirstName _ | .atColon _ _ _ | .afterMember _ _ => .error .endInObject

/-- Takes all tokens of a text of `size` bytes. -/
def run (p : Parser) (size : Nat) : List Located → Except Misprint Json
  | [] =>
    match p.finish with
    | .ok document => .ok document
    | .error fault => .error ⟨fault, size⟩
  | t :: rest =>
    match p.take t with
    | .ok next => run next size rest
    | .error misprint => .error misprint

end Parser

/-- Reads a text as a document. -/
def parse (text : String) : Except Misprint Json :=
  (Parser.atValue []).run text.utf8ByteSize (tokens text)

end Treasury.Json

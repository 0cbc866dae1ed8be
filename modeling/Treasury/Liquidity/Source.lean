import Treasury.Exchange
import Treasury.Liquidity.Document

/-!
# Fetching snapshots

The provider answers with an envelope: a code, which is zero when all is well, a message and
the snapshot, which may be absent when there is nothing to report.
-/

namespace Treasury

/-- Why there is no snapshot. -/
inductive FetchError where
  /-- The provider did not answer. -/
  | noAnswer
  /-- The answer is not an envelope. -/
  | malformed
  /-- The answer has a status that is no success. -/
  | status (status : Nat) (body : String)
  /-- The envelope carries a code that is not zero. -/
  | rejected (code : Int) (sentence : String)
  deriving DecidableEq, Repr

namespace FetchError

/-- The sentence shown for an error. -/
def message : FetchError → String
  | noAnswer => "error sending request"
  | malformed => "error decoding response body"
  | status code body => s!"API error (status {Exchange.statusText code}): {body}"
  | rejected code sentence => s!"Liquidity provider rejected request (code {code}): {sentence}"

end FetchError

/-- The answer of the provider. -/
structure Envelope where
  code : Int
  sentence : String
  data : Option Snapshot

/-- Reads an envelope. -/
def Envelope.read : Json.Reader Envelope := fun document => do
  let r ← Json.record "an envelope" ["code", "msg", "data"] document
  let code ← r.required "code" Json.Reader.int64
  let sentence ← r.withDefault "msg" Json.Reader.text ""
  let data ← r.nullable "data" Snapshot.read
  return ⟨code, sentence, data⟩

/-- The snapshot in an envelope; absent data is an empty snapshot. -/
def Envelope.snapshot (e : Envelope) : Except FetchError Snapshot :=
  if e.code = 0 then .ok (e.data.getD Snapshot.empty) else .error (.rejected e.code e.sentence)

/-- Reads the body of a successful answer. -/
def Envelope.ofText? (body : String) : Option Envelope :=
  match Json.parse body with
  | .error _ => none
  | .ok document =>
    match Envelope.read document with
    | .error _ => none
    | .ok envelope => some envelope

/-- The snapshot that an exchange with the provider gave. -/
def Snapshot.ofExchange : Exchange → Except FetchError Snapshot
  | .unreachable => .error .noAnswer
  | .answered status body =>
    if Exchange.isSuccess status then
      match Envelope.ofText? body with
      | some envelope => envelope.snapshot
      | none => .error .malformed
    else .error (.status status body)

end Treasury

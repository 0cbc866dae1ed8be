import Treasury.Alert.Report
import Treasury.Exchange
import Treasury.Log

/-!
# Telling operators

A report goes out to a channel, either for information or as an alert that names the people
who have to act. Where it goes is a `Notifier`. A delivery that fails is noted in the log
and has no other effect: what is reported has already happened.
-/

namespace Treasury

/-- Whether somebody has to act. -/
inductive Severity where
  | notify
  | alert
  deriving DecidableEq, Repr

/-- The channel of the claim stage. -/
def claimChannel : String := "claimlp"

/-- A report with where it goes. -/
structure StageAlert where
  severity : Severity
  channel : String
  report : StageReport
  deriving DecidableEq, Repr

/-- A message to a channel. -/
structure Delivery where
  severity : Severity
  channel : String
  message : String
  /-- Who is called upon; nobody for information. -/
  recipients : List String
  deriving DecidableEq, Repr

/-- What can be seen of something having happened. -/
inductive Event where
  /-- A line was logged. -/
  | logged (line : LogLine)
  /-- A message was handed over. -/
  | sent (delivery : Delivery)
  /-- A document was posted to the webhook. -/
  | posted (body : Json)

/-- A line in the log. -/
def Event.log (level : LogLevel) (text : String) : Event := .logged ⟨level, text⟩

/-- Why a message did not arrive. -/
inductive NotifierError where
  | noAnswer
  | rejected (status : Nat) (body : String)
  deriving DecidableEq, Repr

/-- The sentence shown for an error. -/
def NotifierError.message : NotifierError → String
  | noAnswer => "error sending request"
  | rejected status body =>
    s!"Webhook rejected message (status {Exchange.statusText status}): {body}"

/-- Where messages go. -/
inductive Notifier where
  /-- Into the log. -/
  | log
  /-- To the webhook, which answers in this way. -/
  | webhook (answer : Exchange)
  /-- To a recipient in the same process, who may refuse everything. -/
  | direct (refusing : Bool)
  deriving DecidableEq, Repr

/-- The document that is posted for a message. -/
def Delivery.webhookBody (d : Delivery) : Json :=
  .object [("msgtype", .text "text"),
    ("text", .object [("content", .text (s!"[{d.channel}]\n" ++ d.message))]),
    ("at", .object [("atMobiles", .array (d.recipients.map Json.text)),
      ("isAtAll", .bool false)])]

namespace Notifier

/-- What the webhook makes of a message. -/
def afterPost : Exchange → Except NotifierError Unit
  | .unreachable => .error .noAnswer
  | .answered status body =>
    if Exchange.isSuccess status then .ok () else .error (.rejected status body)

/-- Delivers a message. -/
def deliver (n : Notifier) (d : Delivery) : Except NotifierError Unit × List Event :=
  match n with
  | log =>
    let level := match d.severity with
      | .notify => LogLevel.info
      | .alert => LogLevel.warn
    (.ok (), [.log level d.message])
  | webhook answer =>
    (afterPost answer, match answer with
      | .unreachable => []
      | .answered _ _ => [.posted d.webhookBody])
  | direct refusing =>
    (if refusing then .error (.rejected 503 "mock failure") else .ok (), [.sent d])

end Notifier

/-- The message of a report. Only alerts call upon people. -/
def StageAlert.delivery (recipients : List String) (a : StageAlert) : Delivery where
  severity := a.severity
  channel := a.channel
  message := a.report.render
  recipients := match a.severity with
    | .notify => []
    | .alert => recipients

/-- Delivers a report, and notes in the log if that fails. -/
def StageAlert.publish (n : Notifier) (recipients : List String) (a : StageAlert) : List Event :=
  let (outcome, events) := n.deliver (a.delivery recipients)
  match outcome with
  | .ok () => events
  | .error _ => events ++ [.log .error "Failed to deliver stage alert"]

end Treasury

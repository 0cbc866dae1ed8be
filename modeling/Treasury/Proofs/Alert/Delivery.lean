import Treasury.Alert.Notifier

/-!
# What can be seen of a report

A report is handed to a notifier as one message, whose text is that of the report. `Shows` says what
can be seen of a message then, one case for each notifier and for each thing that it can make of the
message: the message itself, wherever it goes, and one line more if it does not arrive. Nothing else
comes of a report (`StageAlert.shows_publish`).
-/

namespace Treasury

/-- A message is posted to a chat, under the name of its channel, and calls upon its recipients. -/
def Delivery.toChat (d : Delivery) : Event :=
  .posted (.object [
    ("msgtype", .text "text"),
    ("text", .object [("content", .text ("[" ++ d.channel ++ "]\n" ++ d.message))]),
    ("at", .object [("atMobiles", .array (d.recipients.map Json.text)),
      ("isAtAll", .bool false)])])

/-- The line that says that a message has not arrived. -/
def undelivered : Event := .logged ⟨.error, "Failed to deliver stage alert"⟩

/-- The message of an event, where it was handed over in the same process. -/
def Event.delivery? : Event → Option Delivery
  | sent d => some d
  | _ => none

/-- What can be seen of a message that is handed to a notifier. -/
inductive Notifier.Shows (d : Delivery) : Notifier → List Event → Prop where
  /-- A message for information is a line in the log. -/
  | noted : d.severity = .notify → Shows d .log [.logged ⟨.info, d.message⟩]
  /-- A message that calls upon people is a warning in the log. -/
  | warned : d.severity = .alert → Shows d .log [.logged ⟨.warn, d.message⟩]
  /-- The webhook has taken the message. -/
  | taken {status : Nat} {body : String} : Exchange.isSuccess status = true →
    Shows d (.webhook (.answered status body)) [d.toChat]
  /-- The webhook has been told the message, and refuses it. -/
  | refused {status : Nat} {body : String} : Exchange.isSuccess status = false →
    Shows d (.webhook (.answered status body)) [d.toChat, undelivered]
  /-- The webhook has not been reached. -/
  | unreachable : Shows d (.webhook .unreachable) [undelivered]
  /-- The recipient has got the message. -/
  | sent : Shows d (.direct false) [.sent d]
  /-- The recipient has got the message, and refuses it. -/
  | returned : Shows d (.direct true) [.sent d, undelivered]

/-- **A report shows as one message.** -/
theorem StageAlert.shows_publish (alert : StageAlert) (n : Notifier) (recipients : List String) :
    n.Shows (alert.delivery recipients) (alert.publish n recipients) := by
  unfold publish
  cases n with
  | log =>
    unfold Notifier.deliver
    cases hseverity : alert.severity with
    | notify =>
      have hmessage : (alert.delivery recipients).severity = .notify := hseverity
      rw [hmessage]
      exact .noted hmessage
    | alert =>
      have hmessage : (alert.delivery recipients).severity = .alert := hseverity
      rw [hmessage]
      exact .warned hmessage
  | webhook answer =>
    cases answer with
    | unreachable => exact .unreachable
    | answered status body =>
      dsimp only [Notifier.deliver, Notifier.afterPost]
      cases hstatus : Exchange.isSuccess status with
      | true =>
        rw [if_pos rfl]
        exact .taken hstatus
      | false =>
        rw [if_neg Bool.false_ne_true]
        exact .refused hstatus
  | direct refusing =>
    cases refusing with
    | false => exact .sent
    | true => exact .returned

end Treasury

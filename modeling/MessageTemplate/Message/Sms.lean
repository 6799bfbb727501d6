/-
# Text messages

The text that is sent, its preview in the frame of a phone, and its preview on
one line of a list.
-/
import MessageTemplate.Message.Draft

namespace MessageTemplate.Draft

variable (d : Draft)

/-! ## Texts -/

/-- The text that is sent. -/
def smsText : Text :=
  d.sendable (withServiceName d.options.visibleServiceName d.plainBody)

/-- The recipient shown in a preview: the value of a placeholder. -/
def recipient (placeholder : String) : Text :=
  let s : Substitution := { style := .noBrackets }
  s.render d.values ("((".toList ++ placeholder.toList ++ "))".toList)

/-- The line of a preview that shows the recipient. -/
def smsRecipientLine : Text :=
  if d.options.showRecipient then
    "<p class=\"sms-message-recipient\">To: ".toList ++ d.recipient "phone number"
      ++ "</p>\n".toList
  else []

/-- The part of a preview that shows the sender. -/
def smsSender : Text :=
  match d.options.visibleSender with
  | some sender =>
    "<span class=\"sms-message-sender\">From: ".toList ++ Html.escape sender ++ "</span>".toList
  | none => []

/-- The preview in the frame of a phone. -/
def smsPreview : Text :=
  d.smsRecipientLine ++ "<div class=\"sms-message-wrapper\">".toList ++ d.smsSender
    ++ d.previewBody d.options.visibleServiceName ++ "</div>".toList

/-- The preview on one line: only what was personalised, without markup. -/
def smsBodyPreview : Text :=
  let s : Substitution := { redactMissing := true }
  normaliseWhitespace (d.sendable (s.render d.values d.spec.content))

/-! ## Sizes -/

/-- The measured text, behind the service name if that is shown. -/
def smsMeasured : Measured :=
  (Measured.ofDraft d).withName d.options.visibleServiceName

/-- Whether a text message has no characters, its service name not counted. -/
def smsIsEmpty : Bool :=
  (Measured.ofDraft d).characters == 0

/-- Whether a text message has more characters than it may, its service name
not counted. -/
def smsIsTooLong : Bool :=
  Gsm.characterLimit < (Measured.ofDraft d).characters

/-- The number of parts that a text message needs. -/
def smsParts : Nat :=
  Gsm.smsParts d.smsMeasured.length.units d.smsMeasured.length.encoding

end MessageTemplate.Draft

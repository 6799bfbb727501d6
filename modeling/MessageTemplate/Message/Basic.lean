/-
# Messages

A message is a draft shown as one kind.  `Message.build` refuses a template
of another channel; the other functions answer what can be asked of a message,
and `none` where a question does not apply to its kind.
-/
import MessageTemplate.Message.Broadcast
import MessageTemplate.Message.Email
import MessageTemplate.Message.Failure

namespace MessageTemplate

/-- A draft shown as one kind. -/
structure Message where
  kind : Kind
  draft : Draft
  deriving Repr

namespace Message

/-! ## Making messages -/

/-- The message of a kind, if the template is one of its channel. -/
def build (kind : Kind) (spec : Spec) (options : Options) (values : Personalisation) :
    Except Failure Message :=
  if spec.channel = kind.channel then .ok ⟨kind, ⟨spec, options, values⟩⟩
  else .error (.wrongChannel kind spec.channel)

/-- The broadcast of a text. -/
def broadcast (content : Text) : Message :=
  ⟨.broadcastMessage, ⟨⟨content, none, .broadcast⟩, {}, .empty⟩⟩

/-- The broadcast of an event, which holds its text. -/
def ofEvent (event : Json) : Except Failure Message :=
  match ((event.get? "transmitted_content".toList).bind (Json.get? "body".toList)).bind
      Json.string? with
  | some body => .ok (broadcast body)
  | none => .error .invalidEvent

variable (m : Message)

/-! ## Texts -/

/-- The message as it is shown. -/
def rendered : Text :=
  match m.kind with
  | .smsMessage => m.draft.smsText
  | .smsPreview => m.draft.smsPreview
  | .smsBodyPreview => m.draft.smsBodyPreview
  | .broadcastMessage => m.draft.broadcastText
  | .broadcastPreview => m.draft.broadcastPreview
  | .plainTextEmail => m.draft.plainTextEmail
  | .htmlEmail => m.draft.htmlEmail
  | .emailPreview => m.draft.emailPreview

/-- The subject of an email. -/
def subject? : Option Text :=
  match m.kind with
  | .plainTextEmail => some (m.draft.subject .passthrough .plain)
  | .htmlEmail => some m.draft.htmlSubject
  | .emailPreview => some m.draft.previewSubject
  | _ => none

/-- The subject of an email as it was written. -/
def rawSubject? : Option Text :=
  if m.kind.hasSubject then some m.draft.rawSubject else none

/-- The placeholder names of the template in order of first appearance. -/
def placeholders : List Text :=
  match m.kind.channel with
  | .email => m.draft.emailPlaceholders
  | .sms | .broadcast => MessageTemplate.placeholders m.draft.spec.content

/-! ## Sizes -/

/-- The number of characters. -/
def characters : Nat :=
  match m.kind.channel with
  | .sms => m.draft.smsMeasured.characters
  | .broadcast => (Measured.ofDraft m.draft).characters
  | .email => m.draft.emailCharacters

/-- Whether there is nothing to show. -/
def isEmpty : Bool :=
  match m.kind.channel with
  | .sms => m.draft.smsIsEmpty
  | .broadcast => m.draft.broadcastIsEmpty
  | .email => m.draft.emailCharacters == 0

/-- Whether there is more than may be sent. -/
def isTooLong : Bool :=
  match m.kind.channel with
  | .sms => m.draft.smsIsTooLong
  | .broadcast => m.draft.broadcastIsTooLong
  | .email => m.draft.emailIsTooLong

/-- The length in units of a text message or broadcast. -/
def length? : Option Gsm.Length :=
  match m.kind.channel with
  | .sms => some m.draft.smsMeasured.length
  | .broadcast => some m.draft.broadcastLength
  | .email => none

/-- The number of parts of a text message or broadcast. -/
def parts? : Option Nat :=
  match m.kind.channel with
  | .sms => some m.draft.smsParts
  | .broadcast => some m.draft.broadcastParts
  | .email => none

/-- The number of characters of a text message, its service name not counted. -/
def charactersWithoutName? : Option Nat :=
  match m.kind.channel with
  | .sms => some (Measured.ofDraft m.draft).characters
  | .broadcast | .email => none

/-- The units that a broadcast may have. -/
def capacity? : Option Nat :=
  match m.kind.channel with
  | .broadcast => some m.draft.broadcastLength.encoding.broadcastCapacity
  | .sms | .email => none

/-- The characters that force a broadcast into UCS-2. -/
def outsiders? : Option (List Char) :=
  match m.kind.channel with
  | .broadcast => some m.draft.broadcastOutsiders
  | .sms | .email => none

/-- Whether a broadcast exceeds its capacity. -/
def exceedsCapacity? : Option Bool :=
  match m.kind.channel with
  | .broadcast => some m.draft.broadcastIsTooLong
  | .sms | .email => none

/-- The size of an email in bytes. -/
def bytes? : Option Nat :=
  match m.kind.channel with
  | .email => some m.draft.emailBytes
  | .sms | .broadcast => none

end Message

/-- A template shown as one kind. -/
def render (kind : Kind) (spec : Spec) (options : Options) (values : Personalisation) :
    Except Failure Text :=
  (Message.build kind spec options values).map Message.rendered

end MessageTemplate

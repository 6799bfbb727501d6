/-
# Channels and kinds

A template is written for one channel.  A kind of message is one way to show
a template of its channel: the text that is sent, or a preview of it.
-/
import MessageTemplate.Text.Basic

namespace MessageTemplate

/-! ## Channels -/

/-- A channel that templates are written for. -/
inductive Channel
  | sms
  | email
  | broadcast
  deriving DecidableEq, Repr

/-- The name of a channel in a record. -/
def Channel.name : Channel → Text
  | .sms => "sms".toList
  | .email => "email".toList
  | .broadcast => "broadcast".toList

/-- The channels by name. -/
def Channel.byName : List (Text × Channel) :=
  [Channel.sms, .email, .broadcast].map fun channel => (channel.name, channel)

/-! ## Kinds -/

/-- A kind of message. -/
inductive Kind
  | smsMessage
  | smsPreview
  | smsBodyPreview
  | broadcastMessage
  | broadcastPreview
  | plainTextEmail
  | htmlEmail
  | emailPreview
  deriving DecidableEq, Repr

namespace Kind

/-- All kinds. -/
def all : List Kind :=
  [smsMessage, smsPreview, smsBodyPreview, broadcastMessage, broadcastPreview, plainTextEmail,
    htmlEmail, emailPreview]

/-- The long name of a kind. -/
def typeName : Kind → Text
  | .smsMessage => "SMSMessageTemplate".toList
  | .smsPreview => "SMSPreviewTemplate".toList
  | .smsBodyPreview => "SMSBodyPreviewTemplate".toList
  | .broadcastMessage => "BroadcastMessageTemplate".toList
  | .broadcastPreview => "BroadcastPreviewTemplate".toList
  | .plainTextEmail => "PlainTextEmailTemplate".toList
  | .htmlEmail => "HTMLEmailTemplate".toList
  | .emailPreview => "EmailPreviewTemplate".toList

/-- The short name of a kind. -/
def shortName : Kind → Text
  | .smsMessage => "sms-message".toList
  | .smsPreview => "sms-preview".toList
  | .smsBodyPreview => "sms-body-preview".toList
  | .broadcastMessage => "broadcast-message".toList
  | .broadcastPreview => "broadcast-preview".toList
  | .plainTextEmail => "plain-text-email".toList
  | .htmlEmail => "html-email".toList
  | .emailPreview => "email-preview".toList

/-- The channel whose templates a kind shows. -/
def channel : Kind → Channel
  | .smsMessage | .smsPreview | .smsBodyPreview => .sms
  | .broadcastMessage | .broadcastPreview => .broadcast
  | .plainTextEmail | .htmlEmail | .emailPreview => .email

/-- Whether a kind is a preview. -/
def isPreview : Kind → Bool
  | .smsPreview | .smsBodyPreview | .broadcastPreview | .emailPreview => true
  | .smsMessage | .broadcastMessage | .plainTextEmail | .htmlEmail => false

/-- Whether a kind has a subject: the emails do. -/
def hasSubject (kind : Kind) : Bool :=
  kind.channel == .email

/-- Whether a kind is measured in the units of text messages. -/
def isSmsLike (kind : Kind) : Bool :=
  kind.channel != .email

/-- The names that stand for several kinds and can be shown as none of them. -/
def partialNames : List Text :=
  ["Template".toList, "BaseSMSTemplate".toList, "BaseEmailTemplate".toList,
    "BaseBroadcastTemplate".toList]

/-- The kind of a long or short name. -/
def ofName? (name : Text) : Option Kind :=
  all.find? fun kind => kind.typeName == name || kind.shortName == name

/-- Every kind has its long name. -/
theorem ofName?_typeName (kind : Kind) : ofName? kind.typeName = some kind := by
  cases kind <;> decide

/-- Every kind has its short name. -/
theorem ofName?_shortName (kind : Kind) : ofName? kind.shortName = some kind := by
  cases kind <;> decide

end Kind

end MessageTemplate

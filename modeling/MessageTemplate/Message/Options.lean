/-
# Rendering options

The options say how a message is shown.  Each kind of message reads the
options that concern it and ignores the others.
-/
import MessageTemplate.Record.Form

namespace MessageTemplate

/-- How a message is shown. -/
structure Options where
  /-- The service name in front of the text of a text message. -/
  serviceName : Option Text := none
  showServiceName : Bool := true
  /-- The sender shown in the preview of a text message. -/
  sender : Option Text := none
  showSender : Bool := false
  /-- Whether a preview has a line for the recipient. -/
  showRecipient : Bool := false
  /-- Whether placeholders without a value are left out. -/
  redactMissing : Bool := false
  /-- Whether characters that cannot be sent are replaced. -/
  downgrade : Bool := true
  /-- Whether an HTML email is a whole document. -/
  completeHtml : Bool := true
  govukBanner : Bool := true
  brandBanner : Bool := false
  brandLogo : Option Text := none
  brandText : Option Text := none
  brandColour : Option Text := none
  brandName : Option Text := none
  fromName : Option Text := none
  fromAddress : Option Text := none
  replyTo : Option Text := none
  deriving DecidableEq, Repr

namespace Options

open Record

/-- The members of an options record. -/
def members : List (Member Options) := [
  .optionalText "prefix".toList serviceName fun t o => { o with serviceName := t },
  .flag "show_prefix".toList showServiceName fun b o => { o with showServiceName := b },
  .optionalText "sender".toList sender fun t o => { o with sender := t },
  .flag "show_sender".toList showSender fun b o => { o with showSender := b },
  .flag "show_recipient".toList showRecipient fun b o => { o with showRecipient := b },
  .flag "redact_missing_personalisation".toList redactMissing
    fun b o => { o with redactMissing := b },
  .flag "downgrade_non_sms_characters".toList downgrade fun b o => { o with downgrade := b },
  .flag "complete_html".toList completeHtml fun b o => { o with completeHtml := b },
  .flag "govuk_banner".toList govukBanner fun b o => { o with govukBanner := b },
  .flag "brand_banner".toList brandBanner fun b o => { o with brandBanner := b },
  .optionalText "brand_logo".toList brandLogo fun t o => { o with brandLogo := t },
  .optionalText "brand_text".toList brandText fun t o => { o with brandText := t },
  .optionalText "brand_colour".toList brandColour fun t o => { o with brandColour := t },
  .optionalText "brand_name".toList brandName fun t o => { o with brandName := t },
  .optionalText "from_name".toList fromName fun t o => { o with fromName := t },
  .optionalText "from_address".toList fromAddress fun t o => { o with fromAddress := t },
  .optionalText "reply_to".toList replyTo fun t o => { o with replyTo := t }]

/-- The form of options records. -/
def form : Form Options where
  name := "RenderOptions".toList
  members := members
  closed := true

/-- Reads an options record; what is not given is as by default. -/
def read (value : Json) : Except Fault Options :=
  form.read {} value

/-- Writes an options record. -/
def write (options : Options) : Json :=
  form.write options

/-- A text that is shown: when its flag is set and it is not empty. -/
def shownText (isShown : Bool) (t : Option Text) : Option Text :=
  if isShown then t.filter fun t => !t.isEmpty else none

/-- The service name that is shown. -/
def visibleServiceName (options : Options) : Option Text :=
  shownText options.showServiceName options.serviceName

/-- The sender that is shown. -/
def visibleSender (options : Options) : Option Text :=
  shownText options.showSender options.sender

end Options

end MessageTemplate

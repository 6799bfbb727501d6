/-
# Configured defaults

The defaults are the flags of the options that hold where a request does not
say otherwise, and the format of the log.  `Defaults.merge` lays the members
of an options record over them.
-/
import MessageTemplate.Message.Options

namespace MessageTemplate

open Record

/-! ## Flags -/

/-- The flags that hold where a request does not say otherwise. -/
structure Defaults where
  showServiceName : Bool := true
  showSender : Bool := false
  showRecipient : Bool := false
  redactMissing : Bool := false
  downgrade : Bool := true
  completeHtml : Bool := true
  govukBanner : Bool := true
  brandBanner : Bool := false
  deriving DecidableEq, Repr

namespace Defaults

/-- The members of a defaults record. -/
def members : List (Member Defaults) := [
  .flag "show_prefix".toList showServiceName fun b d => { d with showServiceName := b },
  .flag "show_sender".toList showSender fun b d => { d with showSender := b },
  .flag "show_recipient".toList showRecipient fun b d => { d with showRecipient := b },
  .flag "redact_missing_personalisation".toList redactMissing
    fun b d => { d with redactMissing := b },
  .flag "downgrade_non_sms_characters".toList downgrade fun b d => { d with downgrade := b },
  .flag "complete_html".toList completeHtml fun b d => { d with completeHtml := b },
  .flag "govuk_banner".toList govukBanner fun b d => { d with govukBanner := b },
  .flag "brand_banner".toList brandBanner fun b d => { d with brandBanner := b }]

/-- The form of defaults records; a member of another name is passed over. -/
def form : Form Defaults where
  name := "RenderDefaults".toList
  members := members
  closed := false

/-- Reads a defaults record. -/
def read (value : Json) : Except Fault Defaults :=
  form.read {} value

/-- The options that carry the defaults and nothing else. -/
def toOptions (d : Defaults) : Options where
  showServiceName := d.showServiceName
  showSender := d.showSender
  showRecipient := d.showRecipient
  redactMissing := d.redactMissing
  downgrade := d.downgrade
  completeHtml := d.completeHtml
  govukBanner := d.govukBanner
  brandBanner := d.brandBanner

/-- The defaults under the members of an options record: the options that carry
them are written, the members are put in, and the whole is read as options. -/
def merge (d : Defaults) (overrides : Json) : Except Fault Options :=
  Options.read (d.toOptions.write.overlay overrides)

end Defaults

/-! ## The log -/

/-- The format of the log. -/
inductive LogFormat
  | text
  | json
  deriving DecidableEq, Repr

/-- The formats by name. -/
def LogFormat.byName : List (Text × LogFormat) :=
  [("text".toList, .text), ("json".toList, .json)]

/-- How a log is written. -/
structure Logging where
  format : LogFormat := .text
  deriving DecidableEq, Repr

/-- The form of logging records. -/
def Logging.form : Form Logging where
  name := "LoggingConfig".toList
  members := [{
    name := "format".toList
    required := false
    read := fun value logging =>
      (readWord LogFormat.byName value).map fun format => { logging with format := format }
    write := fun _ => none }]
  closed := false

/-- Reads a logging record. -/
def Logging.read (value : Json) : Except Fault Logging :=
  Logging.form.read {} value

end MessageTemplate

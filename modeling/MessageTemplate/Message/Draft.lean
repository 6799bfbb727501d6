/-
# Drafts

A draft is a template with the options and values it is to be shown with.
Every kind of message is a text made from a draft; this module holds what
several kinds share: the personalised body in plain text and in markup, and
the measured body, on which all sizes rest.
-/
import MessageTemplate.Content.Substitution
import MessageTemplate.Gsm.Downgrade
import MessageTemplate.Gsm.Length
import MessageTemplate.Html.Link
import MessageTemplate.Message.Options
import MessageTemplate.Message.Spec
import MessageTemplate.Text.Spacing

namespace MessageTemplate

/-- A template with its options and values. -/
structure Draft where
  spec : Spec
  options : Options
  values : Personalisation
  deriving Repr

/-- A body behind the name of the service that sends it, unless the name is
absent or empty. -/
def withServiceName (name : Option Text) (body : Text) : Text :=
  match name with
  | none => body
  | some name => if name.isEmpty then body else name ++ ':' :: ' ' :: body

namespace Draft

variable (d : Draft)

/-! ## Bodies -/

/-- How a body is written in plain text. -/
def plainSubstitution : Substitution where
  html := .passthrough
  style := .plain
  markdownLists := true
  redactMissing := d.options.redactMissing

/-- How a body is written in markup. -/
def markupSubstitution : Substitution where
  html := .escape
  style := .highlighted
  markdownLists := true
  redactMissing := d.options.redactMissing

/-- The personalised body in plain text. -/
def plainBody : Text :=
  normaliseLines (d.plainSubstitution.render d.values d.spec.content)

/-- The personalised body in markup. -/
def markupBody : Text :=
  normaliseLines (d.markupSubstitution.render d.values d.spec.content)

/-- A text as it can be sent, if the options ask for that. -/
def sendable (t : Text) : Text :=
  if d.options.downgrade then Gsm.downgrade t else t

/-- The body of a preview, behind a name if one is given: line breaks are
tags and links are anchors. -/
def previewBody (name : Option Text) : Text :=
  Html.autolink .preview true
    (Html.breakLines (d.sendable (withServiceName (name.map Html.escape) d.markupBody)))

end Draft

/-! ## Measured bodies -/

/-- A body as it is measured: without the placeholders that have no value,
which count for one character each. -/
structure Measured where
  body : Text
  unresolved : Nat
  deriving DecidableEq, Repr

namespace Measured

/-- The measured body of a draft. -/
def ofDraft (d : Draft) : Measured where
  body :=
    let redacted := { d.plainSubstitution with redactMissing := true }
    Gsm.replaceLookalikes (normaliseLines (redacted.render d.values d.spec.content))
  unresolved := d.plainSubstitution.unresolvedCount d.values d.spec.content

/-- A measured body behind a service name. -/
def withName (m : Measured) (name : Option Text) : Measured :=
  { m with body := withServiceName name m.body }

/-- The number of characters. -/
def characters (m : Measured) : Nat :=
  m.body.length + m.unresolved

/-- The length of a message with this body. -/
def length (m : Measured) : Gsm.Length :=
  (Gsm.Length.ofText m.body).add m.unresolved

end Measured

end MessageTemplate

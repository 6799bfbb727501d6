/-
# Template records

A template record holds the content of a template, its channel and, for an
email, its subject.
-/
import MessageTemplate.Message.Kind
import MessageTemplate.Record.Form

namespace MessageTemplate

/-- A template as it is stored. -/
structure Spec where
  content : Text
  subject : Option Text
  channel : Channel
  deriving DecidableEq, Repr

namespace Spec

open Record

/-- The record before anything was read; its content and channel are required
and so always replaced. -/
def blank : Spec :=
  ⟨[], none, .sms⟩

/-- The member that holds the content. -/
def contentMember : Member Spec where
  name := "content".toList
  required := true
  read := fun value spec => (readText value).map fun t => { spec with content := t }
  write := fun spec => some (.string spec.content)

/-- The member that holds the subject, which is left out when there is none. -/
def subjectMember : Member Spec where
  name := "subject".toList
  required := false
  read := fun value spec => (readOptionalText value).map fun t => { spec with subject := t }
  write := fun spec => spec.subject.map .string

/-- The member that holds the channel. -/
def channelMember : Member Spec where
  name := "template_type".toList
  required := true
  read := fun value spec =>
    (readWord Channel.byName value).map fun channel => { spec with channel := channel }
  write := fun spec => some (.string spec.channel.name)

/-- The form of template records. -/
def form : Form Spec where
  name := "TemplateSpec".toList
  members := [contentMember, subjectMember, channelMember]
  closed := true

/-- Reads a template record of any shape. -/
def readAny (value : Json) : Except Fault Spec :=
  form.read blank value

/-- What can be wrong with a template record. -/
inductive Invalid
  | record (fault : Fault)
  /-- An email has no subject. -/
  | noSubject
  deriving Repr

/-- The text of what is wrong. -/
def Invalid.message : Invalid → Text
  | .record fault => fault.message
  | .noSubject => "Email templates require a subject".toList

/-- Reads a template record; an email must have a subject. -/
def read (value : Json) : Except Invalid Spec :=
  match readAny value with
  | .error fault => .error (.record fault)
  | .ok spec =>
    if spec.channel = .email && spec.subject.isNone then .error .noSubject else .ok spec

/-- Writes a template record. -/
def write (spec : Spec) : Json :=
  form.write spec

end Spec

end MessageTemplate

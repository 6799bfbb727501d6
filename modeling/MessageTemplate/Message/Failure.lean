/-
# Failures

Why a message could not be made, as a cause; the code that a machine reads;
and the text that a person reads.
-/
import MessageTemplate.Json.Token
import MessageTemplate.Message.Spec

namespace MessageTemplate

/-! ## Input -/

/-- What can be wrong with an input: its JSON, or the record it should be. -/
inductive InputFault
  | json (fault : Json.ReadFault)
  | record (fault : Record.Fault)
  deriving Repr

/-- The text of what is wrong. -/
def InputFault.message : InputFault → Text
  | .json fault => fault.message
  | .record fault => fault.message

/-! ## Failures -/

/-- Why a message could not be made. -/
inductive Failure
  /-- The kind does not show templates of this channel. -/
  | wrongChannel (kind : Kind) (channel : Channel)
  /-- The name stands for several kinds. -/
  | partialKind (name : Text)
  | unknownKind (name : Text)
  | invalidTemplate (why : Spec.Invalid)
  /-- A broadcast event has no body. -/
  | invalidEvent
  | invalidInput (why : InputFault)
  deriving Repr

namespace Failure

/-- The code of a failure. -/
def code : Failure → Text
  | .wrongChannel _ _ | .partialKind _ => "TYPE_ERROR".toList
  | .unknownKind _ => "UNKNOWN_VARIANT".toList
  | .invalidTemplate _ | .invalidEvent | .invalidInput _ => "VALIDATION_ERROR".toList

/-- The text of a failure. -/
def message : Failure → Text
  | .wrongChannel kind channel =>
    "Cannot initialise ".toList ++ kind.typeName ++ " with ".toList ++ channel.name
      ++ " template_type".toList
  | .partialKind name =>
    "Cannot initialise ".toList ++ name ++ ": it has no rendering capability".toList
  | .unknownKind name => "Unknown template variant: ".toList ++ name
  | .invalidTemplate why => "Invalid template: ".toList ++ why.message
  | .invalidEvent => "Invalid broadcast event: missing transmitted_content.body".toList
  | .invalidInput why => "Invalid input: ".toList ++ why.message

end Failure

/-- The kind of a name. -/
def Kind.ofName (name : Text) : Except Failure Kind :=
  if Kind.partialNames.contains name then .error (.partialKind name)
  else
    match Kind.ofName? name with
    | some kind => .ok kind
    | none => .error (.unknownKind name)

end MessageTemplate

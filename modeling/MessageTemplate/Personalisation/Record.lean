/-
# Personalisations as records

A personalisation is written as an object: its members are the values by
name.  A value may be anything but an object or an array that holds one.
-/
import MessageTemplate.Personalisation.Basic
import MessageTemplate.Record.Fault

namespace MessageTemplate

/-! ## Values -/

/-- Reads a value; there is none where an object is. -/
def Value.ofJson? : Json → Option Value
  | .null => some .null
  | .bool b => some (.flag b)
  | .number n => some (.number n)
  | .string t => some (.text t)
  | .array items => (ofItems? items).map .list
  | .object _ => none
where
  /-- Reads values in a row. -/
  ofItems? : List Json → Option (List Value)
    | [] => some []
    | item :: rest =>
      match Value.ofJson? item, ofItems? rest with
      | some value, some values => some (value :: values)
      | _, _ => none

/-- Reads a value. -/
def Value.read (value : Json) : Except Record.Fault Value :=
  match Value.ofJson? value with
  | some v => .ok v
  | none => .error .noValue

/-! ## Personalisations -/

/-- Puts in the members of an object, one after the other. -/
def Personalisation.insertMembers (p : Personalisation) :
    Json.Members → Except Record.Fault Personalisation
  | [] => .ok p
  | (name, value) :: rest => do
    let v ← Value.read value
    insertMembers (p.insert name v) rest

/-- Reads a personalisation. -/
def Personalisation.read : Json → Except Record.Fault Personalisation
  | .object members => Personalisation.empty.insertMembers members
  | other => .error (.wrongType other "a map".toList)

end MessageTemplate

/-
# Values

A value is what a placeholder may stand for.  Scalars have a text, lists have
items, and only the flag `true` shows a conditional text.
-/
import MessageTemplate.Json.Number
import MessageTemplate.Text.Blank

namespace MessageTemplate

/-- A value that a placeholder may stand for. -/
inductive Value
  /-- A value that counts as absent. -/
  | null
  | flag (b : Bool)
  | number (n : Json.Number)
  | text (t : Text)
  | list (items : List Value)
  deriving Repr

namespace Value

/-- Whether a value shows the text of a conditional placeholder. -/
def showsConditional : Value → Bool
  | .flag true => true
  | _ => false

/-- The text of a scalar; a null and a list have none. -/
def text? : Value → Option Text
  | .null => none
  | .flag true => some "true".toList
  | .flag false => some "false".toList
  | .number n => some n.text
  | .text t => some t
  | .list _ => none

/-- The texts of the items of a list that are scalars and not blank. -/
def items? : Value → Option (List Text)
  | .list items => some ((items.filterMap text?).filter fun t => !t.isAllBlank)
  | _ => none

/-- Whether a value counts as absent. -/
def isNull : Value → Bool
  | .null => true
  | _ => false

end Value

end MessageTemplate

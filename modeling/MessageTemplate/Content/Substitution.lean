/-
# Substitution

A substitution writes a template with each placeholder replaced.  A
placeholder with a value shows it, a conditional one shows its own text when
the value is the flag `true` and nothing otherwise, and a placeholder without
a value is marked as such or left out.  Literal text and values are made safe
for the output; names are looked up as they are written.
-/
import MessageTemplate.Content.Node
import MessageTemplate.Html.Tag
import MessageTemplate.Personalisation.Basic

namespace MessageTemplate

/-! ## Settings -/

/-- How literal text and values are made safe. -/
inductive HtmlMode
  /-- Written as entities. -/
  | escape
  /-- Without tags, and the rest written as entities. -/
  | strip
  /-- Left as written, for output that is no markup. -/
  | passthrough
  deriving DecidableEq, Repr

/-- How a placeholder without a value is marked. -/
inductive MissingStyle
  /-- In a span, with its brackets. -/
  | highlighted
  /-- In a span, without brackets. -/
  | noBrackets
  /-- As written, with the name trimmed. -/
  | plain
  deriving DecidableEq, Repr

/-- How a template is written. -/
structure Substitution where
  html : HtmlMode := .escape
  style : MissingStyle := .highlighted
  /-- Whether a list value becomes a bullet list, or else a phrase. -/
  markdownLists : Bool := false
  /-- Whether placeholders without a value are left out. -/
  redactMissing : Bool := false
  deriving DecidableEq, Repr

/-! ## Lists -/

/-- Items as a bullet list in a paragraph of its own. -/
def bulletList (items : List Text) : Text :=
  if items.isEmpty then []
  else
    ['\n', '\n'] ++ List.intercalate ['\n'] (items.map fun item => '*' :: ' ' :: item)
      ++ ['\n', '\n']

/-- Items as a phrase: commas between them, and `and` before the last. -/
def phrase (items : List Text) : Text :=
  match items.getLast? with
  | none => []
  | some last =>
    if items.length = 1 then last
    else List.intercalate [',', ' '] items.dropLast ++ " and ".toList ++ last

namespace Substitution

variable (s : Substitution)

/-! ## Writing -/

/-- A text made safe for the output. -/
def sanitise (t : Text) : Text :=
  match s.html with
  | .escape => Html.escape t
  | .strip => Html.strip t
  | .passthrough => t

/-- The text of a list value. -/
def listText (items : List Text) : Text :=
  if s.markdownLists then bulletList items else phrase items

/-- The text of a value before it is made safe; a null has none. -/
def valueText? (value : Value) : Option Text :=
  (value.items?.map s.listText).or value.text?

/-- What stands for a placeholder without a value. -/
def missing (name : Text) : Text :=
  if s.redactMissing then []
  else
    match s.style with
    | .highlighted =>
      "<span class='placeholder'>((".toList ++ s.sanitise name ++ "))</span>".toList
    | .noBrackets =>
      "<span class='placeholder-no-brackets'>".toList ++ s.sanitise name ++ "</span>".toList
    | .plain => "((".toList ++ s.sanitise name ++ "))".toList

/-- What stands for a placeholder that shows a value. -/
def writeValue (values : Personalisation) (name : Text) : Text :=
  match (values.get? name).bind s.valueText? with
  | some t => s.sanitise t
  | none => s.missing name

/-- Whether the conditional text behind a name is shown. -/
def showsConditional (values : Personalisation) (name : Text) : Bool :=
  (values.get? name).any Value.showsConditional

/-- What is written for a node. -/
def writeNode (values : Personalisation) : Node → Text
  | .text t => s.sanitise t
  | .value name => s.writeValue values name
  | .conditional name shown =>
    if showsConditional values name then shown.flatMap (writeNode values) else []

/-- What is written for nodes in a row. -/
def writeNodes (values : Personalisation) (nodes : List Node) : Text :=
  nodes.flatMap (s.writeNode values)

/-- A template with its placeholders replaced. -/
def render (values : Personalisation) (content : Text) : Text :=
  s.writeNodes values (Node.read content)

/-! ## Counting -/

/-- The number of placeholders of a node that would be shown and have no value. -/
def unresolvedInNode (values : Personalisation) : Node → Nat
  | .text _ => 0
  | .value name => if ((values.get? name).bind s.valueText?).isSome then 0 else 1
  | .conditional name shown =>
    if showsConditional values name then
      shown.foldr (fun n count => unresolvedInNode values n + count) 0
    else 0

/-- The number of placeholders shown as missing; none is when they are left out. -/
def unresolvedCount (values : Personalisation) (content : Text) : Nat :=
  if s.redactMissing then 0
  else (Node.read content).foldr (fun n count => s.unresolvedInNode values n + count) 0

end Substitution

end MessageTemplate

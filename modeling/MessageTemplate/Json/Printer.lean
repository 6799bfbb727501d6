/-
# Printing JSON values

The indented form of a value: two spaces per level, one item or member a
line, and no space inside an empty array or object.
-/
import MessageTemplate.Json.Basic

namespace MessageTemplate.Json

/-! ## Strings -/

/-- How one character is written inside a string. -/
def quotedCharacter (c : Char) : Text :=
  if c = '"' then ['\\', '"']
  else if c = '\\' then ['\\', '\\']
  else if c = '\x08' then ['\\', 'b']
  else if c = '\x0c' then ['\\', 'f']
  else if c = '\n' then ['\\', 'n']
  else if c = '\r' then ['\\', 'r']
  else if c = '\t' then ['\\', 't']
  else if c < ' ' then
    "\\u00".toList ++ [Nat.digitChar (c.toNat / 16), Nat.digitChar (c.toNat % 16)]
  else [c]

/-- A text as a JSON string. -/
def quoted (t : Text) : Text :=
  '"' :: t.flatMap quotedCharacter ++ ['"']

/-! ## Values -/

/-- A line break and the indentation of a level. -/
def lineBreak (level : Nat) : Text :=
  '\n' :: List.replicate (2 * level) ' '

/-- Parts between brackets, each on a line of its own. -/
def bracketed (opening closing : Char) (level : Nat) (parts : List Text) : Text :=
  if parts.isEmpty then [opening, closing]
  else
    opening :: lineBreak (level + 1) ++ List.intercalate (',' :: lineBreak (level + 1)) parts
      ++ lineBreak level ++ [closing]

/-- The indented form of a value inside the given number of levels. -/
def indentedAt (level : Nat) : Json → Text
  | .null => "null".toList
  | .bool true => "true".toList
  | .bool false => "false".toList
  | .number n => n.text
  | .string t => quoted t
  | .array items =>
    bracketed '[' ']' level (items.attach.map fun ⟨item, _⟩ => indentedAt (level + 1) item)
  | .object members =>
    bracketed '{' '}' level
      (members.attach.map fun ⟨(name, value), _⟩ =>
        quoted name ++ [':', ' '] ++ indentedAt (level + 1) value)
termination_by v => sizeOf v
decreasing_by
  · have := List.sizeOf_lt_of_mem ‹_ ∈ items›
    simp
    omega
  · have := List.sizeOf_lt_of_mem ‹(name, value) ∈ members›
    simp at this ⊢
    omega

/-- The indented form of a value. -/
def indented (value : Json) : Text :=
  indentedAt 0 value

end MessageTemplate.Json

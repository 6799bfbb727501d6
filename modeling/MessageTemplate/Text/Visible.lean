/-
# Visible quoting

A text quoted so that every character of it can be seen: what has no visible
form, is ignored by default, or is a mark on the character before it, is
written as an escape.
-/
import MessageTemplate.Text.Basic
import MessageTemplate.Unicode.DefaultIgnorable
import MessageTemplate.Unicode.GraphemeExtend
import MessageTemplate.Unicode.Mark
import MessageTemplate.Unicode.Unprintable

namespace MessageTemplate.Text

/-- Whether a character cannot be seen as a character of its own.  A letter
that extends a grapheme, such as the halfwidth sound marks, can be. -/
def isInvisible (c : Char) : Bool :=
  isUnprintable c || isDefaultIgnorable c || (isGraphemeExtend c && isMark c)

/-- How one character is written in a visible quotation. -/
def visibleCharacter (c : Char) : Text :=
  if c = '\x00' then ['\\', '0']
  else if c = '\t' then ['\\', 't']
  else if c = '\n' then ['\\', 'n']
  else if c = '\r' then ['\\', 'r']
  else if c = '"' then ['\\', '"']
  else if c = '\\' then ['\\', '\\']
  else if isInvisible c then ['\\', 'u', '{'] ++ Nat.toDigits 16 c.toNat ++ ['}']
  else [c]

/-- A text in double quotes with every character visible. -/
def visible (t : Text) : Text :=
  '"' :: t.flatMap visibleCharacter ++ ['"']

end MessageTemplate.Text

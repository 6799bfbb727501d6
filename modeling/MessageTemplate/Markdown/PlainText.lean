/-
# Markdown as plain text

Blocks as the plain text of an email, with a blank line between them:
headings are underlined, items of a list have a bullet or their number, and a
rule is a line of equals signs.
-/
import MessageTemplate.Markdown.Block

namespace MessageTemplate.Markdown

/-- The width of a rule and of the line under a heading. -/
def ruleWidth : Nat := 65

/-- An item of a list, given its place in it. -/
def itemText (ordered : Bool) (place : Nat) (item : Text) : Text :=
  if ordered then Text.ofNat (place + 1) ++ '.' :: ' ' :: item else '•' :: ' ' :: item

/-- A block as plain text. -/
def Block.plainText : Block → Text
  | .heading title => title ++ '\n' :: List.replicate ruleWidth '-'
  | .paragraph lines => List.intercalate ['\n'] lines
  | .list ordered items => List.intercalate ['\n'] (items.mapIdx (itemText ordered))
  | .inset lines => List.intercalate ['\n'] lines
  | .rule => List.replicate ruleWidth '='

/-- A text of markdown as plain text. -/
def plainText (t : Text) : Text :=
  List.intercalate ['\n', '\n'] ((blocks t).map Block.plainText)

end MessageTemplate.Markdown

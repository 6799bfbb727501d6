/-
# Blank and unsupported characters

A character is blank when it has the Unicode property White_Space.  It is
unsupported when no channel can show it: the two separators of lines and
paragraphs, the characters of no width, and every control character that is
not blank.
-/
import MessageTemplate.Text.Basic

namespace MessageTemplate

/-! ## Blank characters -/

/-- Whether a character is white space. -/
def isBlank (c : Char) : Bool :=
  c == ' ' || ('\t' ≤ c && c ≤ '\r') || c == '\u0085' || c == '\u00a0' || c == '\u1680'
    || ('\u2000' ≤ c && c ≤ '\u200a') || c == '\u2028' || c == '\u2029' || c == '\u202f'
    || c == '\u205f' || c == '\u3000'

/-! ## Unsupported characters -/

/-- Whether a character is a control character. -/
def isControl (c : Char) : Bool :=
  c ≤ '\u001f' || ('\u007f' ≤ c && c ≤ '\u009f')

/-- Whether a character has no safe rendering and leaves no gap when dropped. -/
def isUnsupported (c : Char) : Bool :=
  c == '\u2028' || c == '\u2029' || c == '\u180e' || c == '\u200b' || c == '\u200c'
    || c == '\u200d' || c == '\u2060' || c == '\ufeff' || (isControl c && !isBlank c)

/-! ## Trimming -/

namespace Text

/-- A text without the blank characters at its end. -/
def trimEnd (t : Text) : Text :=
  (t.reverse.dropWhile isBlank).reverse

/-- A text without the blank characters at its ends. -/
def trim (t : Text) : Text :=
  trimEnd (t.dropWhile isBlank)

/-- Whether a text holds nothing but blank characters. -/
def isAllBlank (t : Text) : Bool :=
  t.all isBlank

end Text

end MessageTemplate

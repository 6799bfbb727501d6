/-
# Downgrading

A text that goes out as a text message loses what cannot be sent: a
typographic character is replaced by its lookalike in the GSM alphabets, a
character of no width is dropped, and any other character that cannot be sent
becomes a question mark.
-/
import MessageTemplate.Gsm.Alphabet

namespace MessageTemplate.Gsm

/-- The lookalike of a typographic character, which is empty for a character
of no width. -/
def lookalike? (c : Char) : Option Text :=
  if c == '–' || c == '—' then some ['-']
  else if c == '…' then some ['.', '.', '.']
  else if c == '‘' || c == '’' then some ['\'']
  else if c == '“' || c == '”' then some ['"']
  else if c == '\u00a0' || c == '\t' then some [' ']
  else if c == '\u180e' || c == '\u200b' || c == '\u200c' || c == '\u200d' || c == '\u2060'
      || c == '\ufeff' then some []
  else none

/-- A character as its lookalike, or as it is. -/
def replaceLookalike (c : Char) : Text :=
  (lookalike? c).getD [c]

/-- A text with lookalikes for its typographic characters. -/
def replaceLookalikes (t : Text) : Text :=
  t.flatMap replaceLookalike

/-- A character as it can be sent. -/
def downgradeCharacter (c : Char) : Text :=
  match lookalike? c with
  | some replacement => replacement
  | none => if isSendable c then [c] else ['?']

/-- A text as it can be sent in a text message. -/
def downgrade (t : Text) : Text :=
  t.flatMap downgradeCharacter

end MessageTemplate.Gsm

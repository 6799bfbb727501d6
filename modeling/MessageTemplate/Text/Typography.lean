/-
# Typography

Straight quotes become curly ones and a hyphen between spaces becomes an en
dash.  An email token, that is a run of characters without blanks and angle
brackets that has an at sign inside, is never touched by the quotes, and
neither is anything between angle brackets when markup is to be skipped.
-/
import MessageTemplate.Text.Blank
import MessageTemplate.Text.Transducer

namespace MessageTemplate

/-! ## Email tokens -/

/-- Whether a character ends a token: a blank or an angle bracket. -/
def endsToken (c : Char) : Bool :=
  isBlank c || c == '<' || c == '>'

/-- Whether a token reads as an email address: an at sign stands inside it,
neither first nor last. -/
def isEmailToken (token : Text) : Bool :=
  (token.drop 1).dropLast.contains '@'

/-- The characters of a token, each with whether the token is an email token. -/
def markToken (token : Text) : List (Char × Bool) :=
  let inEmail := isEmailToken token
  token.map fun c => (c, inEmail)

/-- The pass that tells of each character whether it lies in an email token.
Its state is the token read so far, latest character first. -/
def emailPass : Transducer Text Char (Char × Bool) where
  start := []
  step := fun token c =>
    if endsToken c then ([], markToken token.reverse ++ [(c, false)])
    else (c :: token, [])
  finish := fun token => markToken token.reverse

/-- The characters of a text, each with whether it lies in an email token. -/
def markEmails (t : Text) : List (Char × Bool) :=
  emailPass.run t

/-! ## Quotes -/

/-- Whether a quote behind the given character opens a quotation. -/
def opensQuote : Option Char → Bool
  | none => true
  | some c =>
    isBlank c || c == '(' || c == '[' || c == '{' || c == '>' || c == '-' || c == '–' || c == '—'

/-- The curly form of a straight quote behind the given character. -/
def curlQuote (previous : Option Char) (c : Char) : Char :=
  if c = '\'' then (if opensQuote previous then '‘' else '’')
  else if c = '"' then (if opensQuote previous then '“' else '”')
  else c

/-- The state of the quote pass: the last character outside markup, and
whether markup is open. -/
structure QuoteState where
  previous : Option Char
  inMarkup : Bool
  deriving DecidableEq, Repr

/-- The pass that curls quotes. -/
def quotePass (skipMarkup : Bool) : Transducer QuoteState (Char × Bool) Char where
  start := ⟨none, false⟩
  step := fun s (c, inEmail) =>
    if s.inMarkup || (skipMarkup && c == '<') then
      (⟨s.previous, c != '>'⟩, [c])
    else
      (⟨some c, false⟩, [if inEmail then c else curlQuote s.previous c])
  finish := fun _ => []

/-- A text with curly quotes. -/
def smartenQuotes (skipMarkup : Bool) (t : Text) : Text :=
  (quotePass skipMarkup).run (markEmails t)

/-! ## Dashes -/

/-- Whether a character is a space or a tab, the blanks that may surround a dash. -/
def isSpaceOrTab (c : Char) : Bool :=
  c == ' ' || c == '\t'

/-- What the dash pass has read and not yet written. -/
inductive DashState
  /-- Nothing is held back. -/
  | text
  /-- A run of spaces and tabs, latest first. -/
  | blanks (blanks : Text)
  /-- A run of spaces and tabs, latest first, and a dash behind it. -/
  | dash (blanks dash : Text)
  /-- A spaced dash was written, and the blanks behind it go unwritten. -/
  | spaced
  deriving DecidableEq, Repr

/-- Whether a hyphen may follow a dash and still belong to it: a dash has at
most three hyphens. -/
def extendsDash (dash : Text) : Bool :=
  dash == ['-'] || dash == ['-', '-']

/-- The pass that writes an en dash between single spaces for each dash of one
to three hyphens, en dash or em dash with spaces or tabs on both sides. -/
def dashPass : Transducer DashState Char Char where
  start := .text
  step := fun s c =>
    match s with
    | .text => if isSpaceOrTab c then (.blanks [c], []) else (.text, [c])
    | .blanks blanks =>
      if isSpaceOrTab c then (.blanks (c :: blanks), [])
      else if c == '-' || c == '–' || c == '—' then (.dash blanks [c], [])
      else (.text, blanks.reverse ++ [c])
    | .dash blanks dash =>
      if isSpaceOrTab c then (.spaced, [' ', '–', ' '])
      else if c == '-' && extendsDash dash then (.dash blanks (dash ++ [c]), [])
      else (.text, blanks.reverse ++ dash ++ [c])
    | .spaced => if isSpaceOrTab c then (.spaced, []) else (.text, [c])
  finish := fun s =>
    match s with
    | .text => []
    | .blanks blanks => blanks.reverse
    | .dash blanks dash => blanks.reverse ++ dash
    | .spaced => []

/-- A text in which each spaced dash is an en dash. -/
def replaceSpacedHyphens (t : Text) : Text :=
  dashPass.run t

/-- A text with curly quotes and en dashes. -/
def niceTypography (skipMarkup : Bool) (t : Text) : Text :=
  replaceSpacedHyphens (smartenQuotes skipMarkup t)

end MessageTemplate

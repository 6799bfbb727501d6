/-
# Lines of markdown

A line is classified by the marker at its start, once the blanks at its ends
are gone: hashes for a heading, a bullet or a number for an item of a list, a
caret for an inset.  A line of nothing but hyphens, asterisks or underscores
is a rule, and any other line is plain.
-/
import MessageTemplate.Text.Blank

namespace MessageTemplate.Markdown

/-- What a line is, with the text behind its marker. -/
inductive Line
  | blank
  | rule
  | heading (title : Text)
  | item (ordered : Bool) (text : Text)
  | inset (text : Text)
  | plain (text : Text)
  deriving DecidableEq, Repr

namespace Line

/-- Whether a trimmed line is a rule: at least three hyphens, asterisks or
underscores, all alike. -/
def isRule (line : Text) : Bool :=
  3 ≤ line.length && (line.all (· == '-') || line.all (· == '*') || line.all (· == '_'))

/-- The title of a trimmed line that starts with one to six hashes and a space. -/
def headingTitle? (line : Text) : Option Text :=
  let hashes := line.takeWhile (· == '#')
  if 1 ≤ hashes.length && hashes.length ≤ 6 then
    (Text.after? [' '] (line.drop hashes.length)).map Text.trim
  else none

/-- The text of a trimmed line that starts with an asterisk, a hyphen or a
bullet, and a space. -/
def bulletText? : Text → Option Text
  | marker :: ' ' :: rest =>
    if marker == '*' || marker == '-' || marker == '•' then some (Text.trim rest) else none
  | _ => none

/-- The text of a trimmed line that starts with digits, a dot and a space. -/
def numberedText? (line : Text) : Option Text :=
  let digits := line.takeWhile Char.isDigit
  if digits.isEmpty then none
  else (Text.after? ['.', ' '] (line.drop digits.length)).map Text.trim

/-- The text of a trimmed line that starts with a caret. -/
def insetText? : Text → Option Text
  | '^' :: rest => some (Text.trim rest)
  | _ => none

/-- What a trimmed line is. -/
def ofTrimmed (line : Text) : Line :=
  if line.isEmpty then .blank
  else if isRule line then .rule
  else
    match headingTitle? line, bulletText? line, numberedText? line, insetText? line with
    | some title, _, _, _ => .heading title
    | none, some text, _, _ => .item false text
    | none, none, some text, _ => .item true text
    | none, none, none, some text => .inset text
    | none, none, none, none => .plain line

/-- What a line is. -/
def read (line : Text) : Line :=
  ofTrimmed line.trim

end Line

end MessageTemplate.Markdown

/-
# Spacing

The normal spacing of a text: one form of line break, no unsupported
character, single spaces between words, at most one blank line between
paragraphs, and nothing blank at either end.

A `Gap` is what stands between the last character written and the next one;
both passes remember a gap and write it only when a further character comes,
so nothing is ever left at the end of a text.
-/
import MessageTemplate.Text.Blank
import MessageTemplate.Text.Transducer

namespace MessageTemplate

/-! ## Line breaks -/

/-- The pass that turns a carriage return, alone or before a line feed, into a
line feed.  Its state says whether the last character was a carriage return. -/
def newlinePass : Transducer Bool Char Char where
  start := false
  step := fun afterReturn c =>
    if c = '\r' then (true, ['\n'])
    else if afterReturn && c == '\n' then (false, [])
    else (false, [c])
  finish := fun _ => []

/-- A text whose only line break is the line feed. -/
def normaliseNewlines (t : Text) : Text :=
  newlinePass.run t

/-- A text without its unsupported characters. -/
def stripUnsupported (t : Text) : Text :=
  t.filter fun c => !isUnsupported c

/-! ## Gaps -/

/-- What stands between the last character written and the next one. -/
inductive Gap
  /-- Nothing was written yet. -/
  | start
  | none
  | space
  | newline
  | blankLine
  deriving DecidableEq, Repr

/-- How a gap is written before the next character. -/
def Gap.text : Gap → Text
  | .start => []
  | .none => []
  | .space => [' ']
  | .newline => ['\n']
  | .blankLine => ['\n', '\n']

/-- A gap after one more blank character that is no line break. -/
def Gap.addBlank : Gap → Gap
  | .none => .space
  | gap => gap

/-- A gap after one more line break. -/
def Gap.addNewline : Gap → Gap
  | .start => .start
  | .none => .newline
  | .space => .newline
  | .newline => .blankLine
  | .blankLine => .blankLine

/-! ## Lines -/

/-- The pass that splits a text at its line feeds.  Its state is the line read
so far, latest character first. -/
def splitPass : Transducer Text Char Text where
  start := []
  step := fun line c => if c = '\n' then ([], [line.reverse]) else (c :: line, [])
  finish := fun line => [line.reverse]

/-- The lines of a text: one more than it has line feeds. -/
def linesOf (t : Text) : List Text :=
  splitPass.run t

/-! ## The two passes -/

/-- The pass that turns each run of blank characters into one space. -/
def wordPass : Transducer Gap Char Char where
  start := .start
  step := fun gap c =>
    if isUnsupported c then (gap, [])
    else if isBlank c then (gap.addBlank, [])
    else (.none, gap.text ++ [c])
  finish := fun _ => []

/-- A text on one line: its words with single spaces between them. -/
def normaliseWhitespace (t : Text) : Text :=
  wordPass.run t

/-- The pass that spaces the words of a line, the lines and the paragraphs. -/
def linePass : Transducer Gap Char Char where
  start := .start
  step := fun gap c =>
    if c = '\n' then (gap.addNewline, [])
    else if isBlank c then (gap.addBlank, [])
    else (.none, gap.text ++ [c])
  finish := fun _ => []

/-- A text of several lines in its normal spacing. -/
def normaliseLines (t : Text) : Text :=
  linePass.run (stripUnsupported (normaliseNewlines t))

end MessageTemplate

/-
# Blocks of markdown

A text is read as blocks.  Headings and rules are blocks of one line; a
paragraph, a list or an inset stays open for the lines behind it until a blank
line or a line of another kind closes it.  A plain line goes on a paragraph or
an inset as a further line, and on a list as more text of its last item.
-/
import MessageTemplate.Markdown.Line
import MessageTemplate.Text.Spacing

namespace MessageTemplate.Markdown

/-- A block of a text. -/
inductive Block
  | heading (title : Text)
  | paragraph (lines : List Text)
  | list (ordered : Bool) (items : List Text)
  | inset (lines : List Text)
  | rule
  deriving DecidableEq, Repr

/-! ## Open blocks -/

/-- A block that further lines may join, with its lines or items latest first. -/
inductive OpenBlock
  | none
  | paragraph (lines : List Text)
  | list (ordered : Bool) (items : List Text)
  | inset (lines : List Text)
  deriving DecidableEq, Repr

/-- The block that an open block becomes when it is closed. -/
def OpenBlock.close : OpenBlock → List Block
  | .none => []
  | .paragraph lines => [.paragraph lines.reverse]
  | .list ordered items => [.list ordered items.reverse]
  | .inset lines => [.inset lines.reverse]

/-- Adds an item: to an open list of the same kind, or else to a new one. -/
def OpenBlock.addItem (block : OpenBlock) (ordered : Bool) (item : Text) :
    OpenBlock × List Block :=
  match block with
  | .list ordered' items =>
    if ordered' = ordered then (.list ordered (item :: items), [])
    else (.list ordered [item], block.close)
  | _ => (.list ordered [item], block.close)

/-- Adds a plain line: to an open block, or else to a new paragraph. -/
def OpenBlock.addLine (line : Text) : OpenBlock → OpenBlock
  | .paragraph lines => .paragraph (line :: lines)
  | .inset lines => .inset (line :: lines)
  | .list ordered (last :: items) => .list ordered ((last ++ ' ' :: line) :: items)
  | .list ordered [] => .list ordered []
  | .none => .paragraph [line]

/-! ## Reading blocks -/

/-- The pass that reads lines as blocks. -/
def blockPass : Transducer OpenBlock Line Block where
  start := .none
  step := fun block line =>
    match line with
    | .blank => (.none, block.close)
    | .rule => (.none, block.close ++ [.rule])
    | .heading title => (.none, block.close ++ [.heading title])
    | .item ordered item => block.addItem ordered item
    | .inset text => (.inset [text], block.close)
    | .plain text => (block.addLine text, [])
  finish := OpenBlock.close

/-- The blocks of a text. -/
def blocks (t : Text) : List Block :=
  blockPass.run ((linesOf t).map Line.read)

end MessageTemplate.Markdown

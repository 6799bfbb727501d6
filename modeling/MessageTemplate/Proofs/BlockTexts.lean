/-
# The texts of blocks

Reading lines as blocks puts the text of each line into a block.  Nothing is
changed but that a line behind an item goes on with its text, with a space in
between.  So what holds of the texts of all lines, and with two texts of both
with a space between them, holds of all texts of the blocks
(`Markdown.blockPass_step_all`), and what is collected from the texts of the
lines is collected from those of the blocks, in the same order
(`Markdown.blockPass_runFrom_collect`).

The pass that reads lines keeps one block open.  What is collected from what it
has written and from the open block is what is in the lines read so far; this is
what one line preserves (`Markdown.blockPass_step_collect`).
-/
import Mathlib
import MessageTemplate.Markdown.Block

namespace MessageTemplate.Markdown

/-! ## Properties of texts -/

section All

variable {P : Text → Prop}

/-- Whether the text of a line, if any, has a property. -/
def Line.All (P : Text → Prop) : Line → Prop
  | .blank | .rule => True
  | .heading t | .item _ t | .inset t | .plain t => P t

/-- Whether all texts of a block have a property. -/
def Block.All (P : Text → Prop) : Block → Prop
  | .heading title => P title
  | .paragraph texts | .list _ texts | .inset texts => ∀ t ∈ texts, P t
  | .rule => True

/-- Whether all texts of an open block have a property. -/
def OpenBlock.All (P : Text → Prop) : OpenBlock → Prop
  | .none => True
  | .paragraph texts | .list _ texts | .inset texts => ∀ t ∈ texts, P t

/-- A closed block has the texts it had when it was open. -/
theorem OpenBlock.All.close {block : OpenBlock} (h : block.All P) : ∀ b ∈ block.close, b.All P := by
  cases block with
  | none => exact fun b hb => absurd hb List.not_mem_nil
  | paragraph texts | list _ texts | inset texts =>
    refine List.forall_mem_singleton.2 fun t ht => ?_
    exact h t (List.mem_reverse.1 ht)

/-- Every text of a line has a property that all texts have. -/
theorem Line.all_of_forall (h : ∀ t, P t) (line : Line) : line.All P := by
  cases line with
  | blank | rule => trivial
  | heading t | item _ t | inset t | plain t => exact h t

/-- **One line.**  Its text joins a block, or the text of a block. -/
theorem blockPass_step_all (hjoin : ∀ t u, P t → P u → P (t ++ ' ' :: u)) {block : OpenBlock}
    {line : Line} (hblock : block.All P) (hline : line.All P) :
    (blockPass.step block line).1.All P ∧ ∀ b ∈ (blockPass.step block line).2, b.All P := by
  cases line with
  | blank => exact ⟨trivial, hblock.close⟩
  | rule =>
    exact ⟨trivial, List.forall_mem_append.2 ⟨hblock.close, List.forall_mem_singleton.2 trivial⟩⟩
  | heading title =>
    exact ⟨trivial, List.forall_mem_append.2 ⟨hblock.close, List.forall_mem_singleton.2 hline⟩⟩
  | inset t => exact ⟨List.forall_mem_singleton.2 hline, hblock.close⟩
  | item ordered item =>
    show (block.addItem ordered item).1.All P ∧ ∀ b ∈ (block.addItem ordered item).2, b.All P
    unfold OpenBlock.addItem
    split
    · split
      · exact ⟨List.forall_mem_cons.2 ⟨hline, hblock⟩, fun b hb => absurd hb List.not_mem_nil⟩
      · exact ⟨List.forall_mem_singleton.2 hline, hblock.close⟩
    · exact ⟨List.forall_mem_singleton.2 hline, hblock.close⟩
  | plain t =>
    refine ⟨?_, fun b hb => absurd hb List.not_mem_nil⟩
    cases block with
    | none => exact List.forall_mem_singleton.2 hline
    | paragraph texts | inset texts => exact List.forall_mem_cons.2 ⟨hline, hblock⟩
    | list ordered items =>
      cases items with
      | nil => exact hblock
      | cons last items =>
        obtain ⟨hlast, hitems⟩ := List.forall_mem_cons.1 hblock
        exact List.forall_mem_cons.2 ⟨hjoin last t hlast hline, hitems⟩

end All

/-! ## Blocks with a line -/

/-- Whether a block that is made up of lines or items has any. -/
def Block.IsFilled : Block → Prop
  | .heading _ | .rule => True
  | .paragraph texts | .list _ texts | .inset texts => texts ≠ []

/-- Whether an open block has a line or an item, if a block is open. -/
def OpenBlock.IsFilled (block : OpenBlock) : Prop :=
  ∀ b ∈ block.close, b.IsFilled

/-- Where no block is open none is without a line. -/
theorem OpenBlock.isFilled_none : OpenBlock.none.IsFilled :=
  fun _ hb => absurd hb List.not_mem_nil

/-- A list that is open has an item when a further one was added. -/
theorem OpenBlock.isFilled_addItem {block : OpenBlock} (h : block.IsFilled) (ordered : Bool)
    (item : Text) :
    (block.addItem ordered item).1.IsFilled ∧ ∀ b ∈ (block.addItem ordered item).2, b.IsFilled := by
  have hitems : ∀ items : List Text, (OpenBlock.list ordered (item :: items)).IsFilled :=
    fun items => List.forall_mem_singleton.2 (by simp [Block.IsFilled])
  cases block with
  | list ordered' items =>
    unfold addItem
    dsimp only
    split
    · rename_i hkind
      exact ⟨hkind ▸ hitems items, fun b hb => absurd hb List.not_mem_nil⟩
    · exact ⟨hitems [], h⟩
  | none | paragraph lines | inset lines => exact ⟨hitems [], h⟩

/-- A block has a line when a further one was added. -/
theorem OpenBlock.isFilled_addLine {block : OpenBlock} (h : block.IsFilled) (line : Text) :
    (block.addLine line).IsFilled := by
  cases block with
  | none | paragraph lines | inset lines =>
    exact List.forall_mem_singleton.2 (by simp [Block.IsFilled])
  | list ordered items =>
    cases items with
    | nil => exact h
    | cons last items => exact List.forall_mem_singleton.2 (by simp [Block.IsFilled])

/-- A line leaves no block without a line or an item, written or open. -/
theorem blockPass_step_isFilled {block : OpenBlock} (h : block.IsFilled) (line : Line) :
    (blockPass.step block line).1.IsFilled
      ∧ ∀ b ∈ (blockPass.step block line).2, b.IsFilled := by
  have hbehind : ∀ {b : Block}, b.IsFilled → ∀ b' ∈ block.close ++ [b], b'.IsFilled :=
    fun hb => List.forall_mem_append.2 ⟨h, List.forall_mem_singleton.2 hb⟩
  cases line with
  | blank => exact ⟨OpenBlock.isFilled_none, h⟩
  | rule => exact ⟨OpenBlock.isFilled_none, hbehind (b := .rule) trivial⟩
  | heading title => exact ⟨OpenBlock.isFilled_none, hbehind (b := .heading title) trivial⟩
  | inset text => exact ⟨List.forall_mem_singleton.2 (List.cons_ne_nil text []), h⟩
  | item ordered item => exact OpenBlock.isFilled_addItem h ordered item
  | plain text =>
    exact ⟨OpenBlock.isFilled_addLine h text, fun b hb => absurd hb List.not_mem_nil⟩

/-! ## What is collected from texts -/

section Collect

variable {α : Type} (read : Text → List α) (rule : List α)

/-- What is collected from a line: from its text, or for a rule. -/
def Line.collect : Line → List α
  | .blank => []
  | .rule => rule
  | .heading t | .item _ t | .inset t | .plain t => read t

/-- What is collected from a block: from its texts, in reading order, or for a rule. -/
def Block.collect : Block → List α
  | .heading title => read title
  | .paragraph texts | .list _ texts | .inset texts => texts.flatMap read
  | .rule => rule

/-- What is collected from an open block. -/
def OpenBlock.collect (block : OpenBlock) : List α :=
  block.close.flatMap (Block.collect read rule)

variable {read rule}

/-- A further item stands behind what is in the open block. -/
theorem OpenBlock.collect_addItem (block : OpenBlock) (ordered : Bool) (item : Text) :
    (block.addItem ordered item).2.flatMap (Block.collect read rule)
        ++ (block.addItem ordered item).1.collect read rule
      = block.collect read rule ++ read item := by
  have hnew : ∀ block : OpenBlock,
      block.close.flatMap (Block.collect read rule)
          ++ (OpenBlock.list ordered [item]).collect read rule
        = block.collect read rule ++ read item := by
    intro block
    simp [collect, close, Block.collect]
  cases block with
  | list ordered' items =>
    unfold addItem
    dsimp only
    split
    · simp [collect, close, Block.collect]
    · exact hnew (.list ordered' items)
  | none => exact hnew .none
  | paragraph lines => exact hnew (.paragraph lines)
  | inset lines => exact hnew (.inset lines)

variable {P : Text → Prop} (hread : ∀ t u, P t → P u → read (t ++ ' ' :: u) = read t ++ read u)
include hread

/-- A further line stands behind what is in the open block. -/
theorem OpenBlock.collect_addLine {block : OpenBlock} (hfilled : block.IsFilled)
    (hblock : block.All P) {line : Text} (hline : P line) :
    (block.addLine line).collect read rule = block.collect read rule ++ read line := by
  cases block with
  | none => simp [addLine, collect, close, Block.collect]
  | paragraph lines | inset lines => simp [addLine, collect, close, Block.collect]
  | list ordered items =>
    cases items with
    | nil =>
      -- a list is opened with its first item
      exact absurd rfl (hfilled (.list ordered []) (by simp [close]))
    | cons last items =>
      have hlast : P last := hblock last List.mem_cons_self
      simp [addLine, collect, close, Block.collect, hread last line hlast hline]

/-- **One line.**  From what is written for it and what is open behind it is
collected what was collected from the open block in front of it and from itself. -/
theorem blockPass_step_collect {block : OpenBlock} {line : Line} (hfilled : block.IsFilled)
    (hblock : block.All P) (hline : line.All P) :
    (blockPass.step block line).2.flatMap (Block.collect read rule)
        ++ (blockPass.step block line).1.collect read rule
      = block.collect read rule ++ line.collect read rule := by
  have hclosed : OpenBlock.none.collect read rule = [] := rfl
  have hbehind : ∀ b : Block,
      (block.close ++ [b]).flatMap (Block.collect read rule)
          ++ OpenBlock.none.collect read rule
        = block.collect read rule ++ b.collect read rule := by
    intro b
    rw [hclosed, List.append_nil, List.flatMap_append, List.flatMap_singleton]
    rfl
  cases line with
  | blank =>
    show block.collect read rule ++ OpenBlock.none.collect read rule
      = block.collect read rule ++ []
    rw [hclosed]
  | rule => exact hbehind .rule
  | heading title => exact hbehind (.heading title)
  | item ordered item => exact block.collect_addItem ordered item
  | inset text =>
    show block.collect read rule ++ (OpenBlock.inset [text]).collect read rule = _
    simp [OpenBlock.collect, OpenBlock.close, Block.collect, Line.collect]
  | plain text => exact OpenBlock.collect_addLine hread hfilled hblock hline

/-- **Lines.**  From the blocks read from lines is collected what is collected
from the open block and from the lines, in order.  Each block that is made up of
lines has one, and its texts have a property that the texts of the lines have. -/
theorem blockPass_runFrom_collect (hjoin : ∀ t u, P t → P u → P (t ++ ' ' :: u))
    {block : OpenBlock} {lines : List Line} (hfilled : block.IsFilled) (hblock : block.All P)
    (hlines : ∀ line ∈ lines, line.All P) :
    (blockPass.runFrom block lines).flatMap (Block.collect read rule)
        = block.collect read rule ++ lines.flatMap (Line.collect read rule)
      ∧ ∀ b ∈ blockPass.runFrom block lines, b.IsFilled ∧ b.All P := by
  induction lines generalizing block with
  | nil =>
    rw [Transducer.runFrom_nil, List.flatMap_nil, List.append_nil]
    exact ⟨rfl, fun b hb => ⟨hfilled b hb, hblock.close b hb⟩⟩
  | cons line lines ih =>
    obtain ⟨hline, hrest⟩ := List.forall_mem_cons.1 hlines
    obtain ⟨hnextFilled, hwrittenFilled⟩ := blockPass_step_isFilled hfilled line
    obtain ⟨hnext, hwritten⟩ := blockPass_step_all hjoin hblock hline
    obtain ⟨hcollect, hall⟩ := ih hnextFilled hnext hrest
    rw [Transducer.runFrom_cons]
    refine ⟨?_, List.forall_mem_append.2 ⟨fun b hb => ⟨hwrittenFilled b hb, hwritten b hb⟩, hall⟩⟩
    rw [List.flatMap_append, hcollect, ← List.append_assoc,
      blockPass_step_collect hread hfilled hblock hline, List.append_assoc, List.flatMap_cons]

end Collect

end MessageTemplate.Markdown

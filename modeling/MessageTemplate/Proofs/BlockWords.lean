/-
# The words of blocks

Reading a text as blocks cuts it at line breaks, trims its lines, drops a marker
from the front of each and joins some lines to others.  None of this touches a
word or a rule: those in the blocks of a text are those of its lines, in the
same order (`Markdown.parts_blocks`).  Words are collected from blocks as they
are from lines (`Markdown.blockPass_runFrom_collect`), since the space between
two joined texts parts their words.
-/
import Mathlib
import MessageTemplate.Proofs.BlockTexts
import MessageTemplate.Proofs.RoundTrip
import MessageTemplate.Proofs.Runs

namespace MessageTemplate

/-- The blanks at the ends of a text belong to no word. -/
theorem Text.runs_trim (t : Text) : t.trim.runs isBlank = t.runs isBlank := by
  have hfront : Text.runs isBlank (t.dropWhile isBlank) = t.runs isBlank := by
    have hblank : ∀ c ∈ t.takeWhile isBlank, isBlank c = true := fun c => List.mem_takeWhile_imp
    have hruns := Text.runs_append_of_forall hblank (t.dropWhile isBlank)
    rwa [List.takeWhile_append_dropWhile, eq_comm] at hruns
  have hend : ∀ u : Text, u.trimEnd.runs isBlank = u.runs isBlank := by
    intro u
    have hblank : ∀ c ∈ (u.reverse.takeWhile isBlank).reverse, isBlank c = true :=
      fun c hc => List.mem_takeWhile_imp (List.mem_reverse.1 hc)
    have hruns := Text.runs_append_of_forall_right hblank u.trimEnd
    rwa [Text.trimEnd, ← List.reverse_append, List.takeWhile_append_dropWhile,
      List.reverse_reverse, eq_comm] at hruns
  rw [Text.trim, hend, hfront]

namespace Markdown

/-! ## Parts -/

/-- What a reader is shown of a text: its words, and the rules between them. -/
inductive Part
  | word (w : Text)
  | rule
  deriving DecidableEq, Repr

/-- The words of a text, in reading order. -/
def wordParts (t : Text) : List Part :=
  (t.runs isBlank).map Part.word

/-- The parts of a line without its marker. -/
def Line.parts : Line → List Part
  | .blank => []
  | .rule => [.rule]
  | .heading t | .item _ t | .inset t | .plain t => wordParts t

/-- The parts of a block, in reading order. -/
def Block.parts : Block → List Part
  | .heading title => wordParts title
  | .paragraph texts | .list _ texts | .inset texts => texts.flatMap wordParts
  | .rule => [.rule]

/-- The parts of a line are collected from its words, or are a rule. -/
theorem Line.parts_eq : Line.parts = Line.collect wordParts [.rule] := by
  funext line
  cases line <;> rfl

/-- The parts of a block are collected from its words, or are a rule. -/
theorem Block.parts_eq : Block.parts = Block.collect wordParts [.rule] := by
  funext b
  cases b <;> rfl

theorem wordParts_trim (t : Text) : wordParts t.trim = wordParts t := by
  rw [wordParts, wordParts, Text.runs_trim]

/-- A blank parts the words in front of it from those behind it. -/
theorem wordParts_append_cons {c : Char} (hc : isBlank c = true) (t u : Text) :
    wordParts (t ++ c :: u) = wordParts t ++ wordParts u := by
  rw [wordParts, Text.runs_append_cons hc, List.map_append]
  rfl

/-- A blank in front of a text is no part of it. -/
theorem wordParts_cons {c : Char} (hc : isBlank c = true) (t : Text) :
    wordParts (c :: t) = wordParts t :=
  wordParts_append_cons hc [] t

/-- **Lines.**  The blocks read from lines have the parts of the lines, in order,
and each that is made up of lines has one. -/
theorem run_parts (lines : List Line) :
    (blockPass.run lines).flatMap Block.parts = lines.flatMap Line.parts
      ∧ ∀ b ∈ blockPass.run lines, b.IsFilled := by
  have hread : ∀ t u : Text, True → True →
      wordParts (t ++ ' ' :: u) = wordParts t ++ wordParts u :=
    fun t u _ _ => wordParts_append_cons rfl t u
  have hlines : ∀ line ∈ lines, line.All fun _ => True :=
    fun line _ => Line.all_of_forall (fun _ => trivial) line
  rw [Block.parts_eq, Line.parts_eq]
  obtain ⟨hcollect, hall⟩ := blockPass_runFrom_collect hread (fun _ _ _ _ => trivial)
    OpenBlock.isFilled_none trivial hlines
  exact ⟨hcollect, fun b hb => (hall b hb).1⟩

/-! ## Markers -/

/-- A trimmed line without the marker it was read by. -/
def withoutMarker (line : Text) : Text :=
  match Line.ofTrimmed line with
  | .heading _ => line.dropWhile (· == '#')
  | .item false _ | .inset _ => line.drop 1
  | .item true _ => (line.dropWhile Char.isDigit).drop 1
  | .blank | .rule | .plain _ => line

/-- Behind characters of one sort, a mark and a space stand the words that are
left when the characters and the mark are dropped. -/
theorem wordParts_of_after? (mark : Text) {line rest : Text} {p : Char → Bool}
    (h : Text.after? (mark ++ [' ']) (line.drop (line.takeWhile p).length) = some rest) :
    wordParts rest.trim = wordParts ((line.dropWhile p).drop mark.length) := by
  have hdrop : line.drop (line.takeWhile p).length = line.dropWhile p := by
    have happend := List.prefix_iff_eq_append.1 (List.takeWhile_prefix (l := line) p)
    exact List.append_cancel_left (happend.trans List.takeWhile_append_dropWhile.symm)
  rw [Text.after?_eq_some_iff, hdrop, List.append_assoc] at h
  rw [h, List.drop_left, wordParts_trim]
  exact (wordParts_cons rfl rest).symm

theorem wordParts_headingTitle? {line title : Text} (h : Line.headingTitle? line = some title) :
    wordParts title = wordParts (line.dropWhile (· == '#')) := by
  unfold Line.headingTitle? at h
  dsimp only at h
  split at h
  · obtain ⟨rest, hrest, rfl⟩ := Option.map_eq_some_iff.1 h
    exact wordParts_of_after? [] hrest
  · cases h

theorem wordParts_numberedText? {line item : Text} (h : Line.numberedText? line = some item) :
    wordParts item = wordParts ((line.dropWhile Char.isDigit).drop 1) := by
  unfold Line.numberedText? at h
  dsimp only at h
  split at h
  · cases h
  · obtain ⟨rest, hrest, rfl⟩ := Option.map_eq_some_iff.1 h
    exact wordParts_of_after? ['.'] hrest

theorem wordParts_bulletText? {line item : Text} (h : Line.bulletText? line = some item) :
    wordParts item = wordParts (line.drop 1) := by
  unfold Line.bulletText? at h
  split at h
  · split at h
    · cases h
      rw [wordParts_trim]
      exact (wordParts_cons rfl _).symm
    · cases h
  · cases h

theorem wordParts_insetText? {line t : Text} (h : Line.insetText? line = some t) :
    wordParts t = wordParts (line.drop 1) := by
  unfold Line.insetText? at h
  split at h
  · cases h
    rw [wordParts_trim]
    rfl
  · cases h

/-- The parts of a trimmed line: a rule, or the words behind its marker. -/
def sourceParts (line : Text) : List Part :=
  if Line.isRule line then [.rule] else wordParts (withoutMarker line)

/-- **Lines.**  What is read of a line is a rule or has the words behind its marker. -/
theorem Line.parts_ofTrimmed (line : Text) : (Line.ofTrimmed line).parts = sourceParts line := by
  unfold sourceParts withoutMarker Line.ofTrimmed
  by_cases hempty : line.isEmpty = true
  · rw [List.isEmpty_iff.1 hempty]
    rfl
  by_cases hrule : isRule line = true
  · rw [if_neg hempty, if_pos hrule, if_pos hrule]
    rfl
  rw [if_neg hempty, if_neg hrule, if_neg hrule]
  cases hheading : headingTitle? line with
  | some title => exact wordParts_headingTitle? hheading
  | none =>
    cases hbullet : bulletText? line with
    | some item => exact wordParts_bulletText? hbullet
    | none =>
      cases hnumbered : numberedText? line with
      | some item => exact wordParts_numberedText? hnumbered
      | none =>
        cases hinset : insetText? line with
        | some t => exact wordParts_insetText? hinset
        | none => rfl

/-! ## Words of a text -/

/-- The lines of a text that are not blank, trimmed, in reading order. -/
def trimmedLines (t : Text) : List Text :=
  ((t.splitOn '\n').map Text.trim).filter fun line => !line.isEmpty

/-- **Nothing is lost.**  The blocks of a text have the words behind the markers
of its lines and its rules, all of them once and in order, and each block that
is made up of lines or items has one. -/
theorem parts_blocks (t : Text) :
    (blocks t).flatMap Block.parts = (trimmedLines t).flatMap sourceParts
      ∧ ∀ b ∈ blocks t, b.IsFilled := by
  have hblank : ∀ lines : List Text, lines.flatMap sourceParts
      = (lines.filter fun line => !line.isEmpty).flatMap sourceParts := by
    intro lines
    induction lines with
    | nil => rfl
    | cons line lines ih =>
      cases line with
      | nil => exact ih
      | cons c line => rw [List.filter_cons_of_pos rfl, List.flatMap_cons, List.flatMap_cons, ih]
  obtain ⟨hparts, hfilled⟩ := run_parts ((linesOf t).map Line.read)
  refine ⟨?_, hfilled⟩
  calc (blocks t).flatMap Block.parts
      = ((linesOf t).map Line.read).flatMap Line.parts := hparts
    _ = ((t.splitOn '\n').map Text.trim).flatMap sourceParts := by
        rw [linesOf_eq_splitOn, List.flatMap_map, List.flatMap_map]
        exact List.flatMap_congr fun line _ => Line.parts_ofTrimmed line.trim
    _ = (trimmedLines t).flatMap sourceParts := hblank _

example : (blocks "# One\n* two\nthree\n\n---".toList).flatMap Block.parts
    = [.word "One".toList, .word "two".toList, .word "three".toList, .rule] := by
  decide +kernel

end Markdown

end MessageTemplate

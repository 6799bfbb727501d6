/-
# Blank lines between blocks

A blank line closes the block that is open, and nothing else is left of it:
lines with a blank line in between are read as the lines in front of it and the
lines behind it (`Markdown.blockPass_runFrom_append_blank`).  Where no block is
open it is passed over, so it makes no difference to the blocks of a text that
its empty lines are dropped or collapse (`Markdown.blocks_normaliseLines`).

Two line breaks in a row leave a blank line whatever stands on either side of
them, also where the first ends a break that a carriage return began.  They part
the blocks of two texts (`Markdown.blocks_normaliseLines_append`).
-/
import Mathlib
import MessageTemplate.Proofs.LineByLine
import MessageTemplate.Proofs.RoundTrip

namespace MessageTemplate

/-! ## Lines of a normal text -/

/-- Words with single spaces between them stand on one line. -/
theorem newline_not_mem_spaceWords (line : Text) : '\n' ∉ spaceWords line := by
  have hword : ∀ {w : Text}, (∀ c ∈ w, isBlank c = false) → '\n' ∉ w :=
    fun hw hmem => absurd (hw '\n' hmem) (by decide)
  induction line using Text.induction_on_runs isBlank with
  | last w hw =>
    rw [spaceWords_of_forall hw]
    exact hword hw
  | next w c t hw hc ih =>
    rw [spaceWords_append_cons hw hc]
    split
    · exact ih
    split
    · exact hword hw
    · rw [List.mem_append, List.mem_cons, not_or, not_or]
      exact ⟨hword hw, by decide, ih⟩

/-- No line is added when runs of empty lines collapse. -/
theorem mem_of_mem_collapseLines {line : Text} {lines : List Text}
    (h : line ∈ collapseLines lines) : line ∈ lines := by
  fun_induction collapseLines lines with
  | case1 => exact h
  | case2 lines ih => exact List.mem_cons_of_mem [] (ih h)
  | case3 first lines _ ih =>
    rcases List.mem_cons.1 h with rfl | hrest
    · exact List.mem_cons_self
    · exact List.mem_cons_of_mem first (ih hrest)

/-- No line is added when the empty ones at both ends are dropped. -/
theorem mem_of_mem_trimLines {line : Text} {lines : List Text} (h : line ∈ trimLines lines) :
    line ∈ lines :=
  (List.dropWhile_suffix _).subset ((List.rdropWhile_prefix _ _).subset h)

/-- A line break parts the lines in front of it from those behind it. -/
theorem splitOn_append_newline (t u : Text) :
    (t ++ '\n' :: u).splitOn '\n' = t.splitOn '\n' ++ u.splitOn '\n' :=
  List.splitOnP_append_cons t u (beq_self_eq_true '\n')

/-- The lines of a text as they are spaced: the line breaks are unified, the
unsupported characters deleted, and single spaces stand between words. -/
def spacedLines (t : Text) : List Text :=
  ((stripUnsupported (unifyBreaks t)).splitOn '\n').map spaceWords

namespace Markdown

/-! ## Blank lines -/

/-- **Blank lines.**  The lines in front of a blank line and those behind it are
read apart. -/
theorem blockPass_runFrom_append_blank (block : OpenBlock) (lines lines' : List Line) :
    blockPass.runFrom block (lines ++ .blank :: lines')
      = blockPass.runFrom block lines ++ blockPass.run lines' := by
  have hfront := blockPass.runFrom_append block lines []
  rw [List.append_nil, Transducer.runFrom_nil] at hfront
  rw [Transducer.runFrom_append, Transducer.runFrom_cons, hfront, List.append_assoc]
  rfl

/-- A blank line at the end is passed over. -/
theorem blockPass_runFrom_concat_blank (block : OpenBlock) (lines : List Line) :
    blockPass.runFrom block (lines ++ [.blank]) = blockPass.runFrom block lines := by
  rw [blockPass_runFrom_append_blank]
  exact List.append_nil _

/-- A blank line is passed over where no block is open. -/
theorem blockPass_run_blank (lines : List Line) :
    blockPass.run (.blank :: lines) = blockPass.run lines :=
  blockPass_runFrom_append_blank .none [] lines

/-- Lines with line breaks between them are read one after the other. -/
theorem blocks_intercalate {lines : List Text} (h : ∀ line ∈ lines, '\n' ∉ line) :
    blocks (List.intercalate ['\n'] lines) = blockPass.run (lines.map Line.read) := by
  rw [blocks, linesOf_eq_splitOn]
  rcases eq_or_ne lines [] with rfl | hne
  · exact blockPass_run_blank []
  · rw [List.splitOn_intercalate '\n' h hne]

/-- Further empty lines behind an empty line are passed over. -/
theorem blockPass_runFrom_collapseLines (block : OpenBlock) (lines : List Text) :
    blockPass.runFrom block ((collapseLines lines).map Line.read)
      = blockPass.runFrom block (lines.map Line.read) := by
  have hempty : Line.read [] = .blank := rfl
  fun_induction collapseLines lines generalizing block with
  | case1 => rfl
  | case2 lines ih =>
    rw [ih, List.map_cons, List.map_cons, hempty]
    have hone := blockPass_runFrom_append_blank block [] (lines.map Line.read)
    have htwo := blockPass_runFrom_append_blank block [] (.blank :: lines.map Line.read)
    rw [blockPass_run_blank, ← hone] at htwo
    exact htwo.symm
  | case3 line lines _ ih =>
    rw [List.map_cons, List.map_cons, Transducer.runFrom_cons, Transducer.runFrom_cons, ih]

/-- Empty lines at both ends are passed over. -/
theorem blockPass_run_trimLines (lines : List Text) :
    blockPass.run ((trimLines lines).map Line.read) = blockPass.run (lines.map Line.read) := by
  have hfront : blockPass.run ((lines.dropWhile List.isEmpty).map Line.read)
      = blockPass.run (lines.map Line.read) := by
    induction lines with
    | nil => rfl
    | cons line lines ih =>
      cases line with
      | nil => exact ih.trans (blockPass_run_blank (lines.map Line.read)).symm
      | cons c line => rw [List.dropWhile_cons_of_neg (by simp)]
  have hend : ∀ lines : List Text, blockPass.run ((lines.rdropWhile List.isEmpty).map Line.read)
      = blockPass.run (lines.map Line.read) := by
    intro lines
    induction lines using List.reverseRecOn with
    | nil => rfl
    | append_singleton lines line ih =>
      cases line with
      | nil =>
        rw [List.rdropWhile_concat_pos _ _ _ rfl, ih, List.map_append]
        exact (blockPass_runFrom_concat_blank .none (lines.map Line.read)).symm
      | cons c line => rw [List.rdropWhile_concat_neg _ _ _ (by simp)]
  rw [trimLines, hend, hfront]

/-- **Normal texts.**  The blocks of a text in its normal spacing are read off
its lines, all of its empty lines included. -/
theorem blocks_normaliseLines (t : Text) :
    blocks (normaliseLines t) = blockPass.run ((spacedLines t).map Line.read) := by
  have hbreak : ∀ line ∈ collapseLines (trimLines (spacedLines t)), '\n' ∉ line := by
    intro line hline
    obtain ⟨source, -, rfl⟩ :=
      List.mem_map.1 (mem_of_mem_trimLines (mem_of_mem_collapseLines hline))
    exact newline_not_mem_spaceWords source
  calc blocks (normaliseLines t)
      = blocks (List.intercalate ['\n'] (collapseLines (trimLines (spacedLines t)))) :=
        congrArg blocks (normaliseLines_eq_lines t)
    _ = blockPass.run ((collapseLines (trimLines (spacedLines t))).map Line.read) :=
        blocks_intercalate hbreak
    _ = blockPass.run ((trimLines (spacedLines t)).map Line.read) :=
        blockPass_runFrom_collapseLines .none _
    _ = blockPass.run ((spacedLines t).map Line.read) := blockPass_run_trimLines _

end Markdown

/-! ## Two line breaks in a row -/

/-- Any character but a carriage return stays as it is. -/
theorem unifyBreaks_cons {c : Char} (hc : c ≠ '\r') (t : Text) :
    unifyBreaks (c :: t) = c :: unifyBreaks t :=
  unifyBreaks.eq_4 c t (fun _ h _ => hc h) hc

/-- A text without carriage returns stays as it is in front of any other. -/
theorem unifyBreaks_append {t : Text} (h : '\r' ∉ t) (u : Text) :
    unifyBreaks (t ++ u) = t ++ unifyBreaks u := by
  induction t with
  | nil => rfl
  | cons c t ih =>
    rw [List.mem_cons, not_or] at h
    rw [List.cons_append, unifyBreaks_cons (Ne.symm h.1), ih h.2]
    rfl

/-- Two line breaks stay two line breaks, but for the first if a carriage return
stands in front of it: then it is one break with that, and was one by itself. -/
theorem exists_unifyBreaks_append (t u : Text) :
    ∃ v, unifyBreaks (t ++ '\n' :: '\n' :: u) = v ++ '\n' :: '\n' :: unifyBreaks u
      ∧ (unifyBreaks t = v ∨ unifyBreaks t = v ++ ['\n']) := by
  have hnewline : ∀ t : Text, unifyBreaks ('\n' :: t) = '\n' :: unifyBreaks t :=
    unifyBreaks_cons (by decide)
  fun_induction unifyBreaks t with
  | case1 =>
    refine ⟨[], ?_, Or.inl rfl⟩
    rw [List.nil_append, hnewline, hnewline]
    rfl
  | case2 t ih =>
    obtain ⟨v, happend, hfront⟩ := ih
    refine ⟨'\n' :: v, ?_, hfront.imp (congrArg _) (congrArg _)⟩
    rw [List.cons_append, List.cons_append, unifyBreaks, happend]
    rfl
  | case3 t h ih =>
    cases t with
    | nil =>
      -- the carriage return and the first line break are one
      refine ⟨[], ?_, Or.inr rfl⟩
      show unifyBreaks ('\r' :: '\n' :: '\n' :: u) = _
      rw [unifyBreaks, hnewline]
      rfl
    | cons c t =>
      obtain ⟨v, happend, hfront⟩ := ih
      have hc : ∀ rest, c :: t ++ '\n' :: '\n' :: u = '\n' :: rest → False := by
        intro rest heq
        exact h t (by rw [(List.cons.inj heq).1])
      refine ⟨'\n' :: v, ?_, hfront.imp (congrArg _) (congrArg _)⟩
      rw [List.cons_append, unifyBreaks.eq_3 _ hc, happend]
      rfl
  | case4 c t _ hc ih =>
    obtain ⟨v, happend, hfront⟩ := ih
    refine ⟨c :: v, ?_, hfront.imp (congrArg _) (congrArg _)⟩
    rw [List.cons_append, unifyBreaks_cons hc, happend]
    rfl

namespace Markdown

/-- **Paragraph breaks.**  The blocks of a text with two line breaks in a row are
those of what stands in front of them and those of what stands behind. -/
theorem blocks_normaliseLines_append (t u : Text) :
    blocks (normaliseLines (t ++ '\n' :: '\n' :: u))
      = blocks (normaliseLines t) ++ blocks (normaliseLines u) := by
  have hempty : Line.read (spaceWords []) = .blank := rfl
  obtain ⟨v, happend, hfront⟩ := exists_unifyBreaks_append t u
  have hlines : (spacedLines (t ++ '\n' :: '\n' :: u)).map Line.read
      = (((stripUnsupported v).splitOn '\n').map spaceWords).map Line.read
        ++ .blank :: (spacedLines u).map Line.read := by
    have hstrip : stripUnsupported (v ++ '\n' :: '\n' :: unifyBreaks u)
        = stripUnsupported v ++ '\n' :: ([] ++ '\n' :: stripUnsupported (unifyBreaks u)) :=
      stripUnsupported_append v _
    rw [spacedLines, happend, hstrip, splitOn_append_newline, splitOn_append_newline,
      List.splitOn_nil, List.map_append, List.map_append, List.singleton_append, List.map_cons,
      List.map_cons, hempty]
    rfl
  -- a break that joins the carriage return in front of it leaves an empty line there
  have hblocks : blockPass.run ((((stripUnsupported v).splitOn '\n').map spaceWords).map Line.read)
      = blocks (normaliseLines t) := by
    rw [blocks_normaliseLines, spacedLines]
    rcases hfront with heq | heq
    · rw [heq]
    · have hstrip : stripUnsupported (v ++ ['\n']) = stripUnsupported v ++ '\n' :: [] :=
        stripUnsupported_append v _
      rw [heq, hstrip, splitOn_append_newline, List.splitOn_nil, List.map_append,
        List.map_append]
      exact (blockPass_runFrom_concat_blank .none _).symm
  rw [blocks_normaliseLines, hlines, blocks_normaliseLines u, ← hblocks]
  exact blockPass_runFrom_append_blank .none _ _

end Markdown

end MessageTemplate

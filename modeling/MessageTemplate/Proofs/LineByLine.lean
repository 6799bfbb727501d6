/-
# The lines of a text, one by one

`normaliseLines` reads a text once, character by character, and remembers a gap.
The same text is put together from its lines: each has its words with single
spaces between them, the empty lines at both ends are left out, and so is each
empty line behind another (`normaliseLines_eq_lines`).

* `linePass_runFrom_line` : the pass over one line writes its words, and what
  gap is left behind them depends only on whether there are any;
* `linePass_runFrom_lines` : the pass over a text writes its lines one after the
  other, each behind the gap that was left (`writeLines`);
* `writeLines_start` : lines behind gaps are lines with line breaks between them.
-/
import Mathlib
import MessageTemplate.Proofs.NormalForm
import MessageTemplate.Proofs.Runs

namespace MessageTemplate

/-! ## Line breaks -/

/-- A text with each line break as a line feed: a carriage return with the line
feed behind it, and every other carriage return. -/
def unifyBreaks : Text → Text
  | [] => []
  | '\r' :: '\n' :: t => '\n' :: unifyBreaks t
  | '\r' :: t => '\n' :: unifyBreaks t
  | c :: t => c :: unifyBreaks t

/-- Behind a carriage return only a line feed is read differently. -/
theorem newlinePass_runFrom_true {t : Text} (h : ∀ rest, t ≠ '\n' :: rest) :
    newlinePass.runFrom true t = newlinePass.runFrom false t := by
  cases t with
  | nil => rfl
  | cons c t =>
    have hc : c ≠ '\n' := fun hc => h t (by rw [hc])
    have hstep : newlinePass.step true c = newlinePass.step false c := by
      simp [newlinePass, hc]
    rw [Transducer.runFrom_cons, Transducer.runFrom_cons, hstep]

/-- **Line breaks.**  Each is normalised to a line feed. -/
theorem normaliseNewlines_eq (t : Text) : normaliseNewlines t = unifyBreaks t := by
  have held : newlinePass.runFrom false t = unifyBreaks t := by
    fun_induction unifyBreaks t with
    | case1 => rfl
    | case2 t ih =>
      rw [Transducer.runFrom_cons, Transducer.runFrom_cons, ← ih]
      rfl
    | case3 t h ih =>
      rw [Transducer.runFrom_cons, ← ih, ← newlinePass_runFrom_true h]
      rfl
    | case4 c t _ h ih =>
      have hstep : newlinePass.step false c = (false, [c]) := by
        simpa [newlinePass] using h
      rw [Transducer.runFrom_cons, hstep, ih, List.singleton_append]
  exact held

/-! ## Words of a line -/

/-- A line with single spaces between its words. -/
def spaceWords (line : Text) : Text :=
  List.intercalate [' '] (line.runs isBlank)

/-- Without blanks a line is its only word. -/
theorem spaceWords_of_forall {w : Text} (hw : ∀ c ∈ w, isBlank c = false) : spaceWords w = w := by
  rw [spaceWords, Text.runs_of_forall hw]
  split
  · rename_i hnil
    rw [hnil]
    rfl
  · exact List.intercalate_singleton

/-- A line is empty when it has no words. -/
theorem spaceWords_eq_nil_iff {line : Text} : spaceWords line = [] ↔ line.runs isBlank = [] := by
  have hmem : [] ∉ line.runs isBlank := Text.nil_not_mem_runs line
  unfold spaceWords
  generalize line.runs isBlank = words at hmem
  cases words with
  | nil => exact iff_of_true rfl rfl
  | cons w words =>
    rw [List.mem_cons, not_or] at hmem
    refine iff_of_false (fun hnil => ?_) (List.cons_ne_nil w words)
    cases words with
    | nil => exact hmem.1 (by simpa using hnil.symm)
    | cons w' words =>
      rw [List.intercalate_cons_cons, List.append_eq_nil_iff, List.append_eq_nil_iff] at hnil
      exact hmem.1 hnil.1.1.symm

/-- The first word of a line stands in front of the others, with a space between. -/
theorem spaceWords_append_cons {w : Text} (hw : ∀ c ∈ w, isBlank c = false) {c : Char}
    (hc : isBlank c = true) (t : Text) :
    spaceWords (w ++ c :: t)
      = if w = [] then spaceWords t
        else if spaceWords t = [] then w else w ++ ' ' :: spaceWords t := by
  have hwords := Text.runs_append_cons hc w t
  rw [Text.runs_of_forall hw] at hwords
  split
  · rename_i hnil
    rw [spaceWords, hwords, if_pos hnil, List.nil_append, spaceWords]
  · rename_i hne
    rw [if_neg hne, List.singleton_append] at hwords
    rw [spaceWords, hwords]
    split
    · rename_i hnil
      rw [spaceWords_eq_nil_iff.1 hnil]
      exact List.intercalate_singleton
    · rename_i hrest
      obtain ⟨w', words, hcons⟩ :=
        List.exists_cons_of_ne_nil fun hnil => hrest (spaceWords_eq_nil_iff.2 hnil)
      rw [spaceWords, hcons, List.intercalate_cons_cons, List.append_assoc, List.singleton_append]

/-! ## The pass over one line -/

/-- In front of a line break a blank adds nothing to a gap. -/
theorem Gap.addNewline_addBlank (gap : Gap) : gap.addBlank.addNewline = gap.addNewline := by
  cases gap <;> rfl

/-- Behind a line break a blank adds nothing to a gap either. -/
theorem Gap.text_addBlank {gap : Gap} (h : gap ≠ .none) : gap.addBlank.text = gap.text := by
  cases gap <;> first | rfl | exact absurd rfl h

theorem Gap.addBlank_ne_none (gap : Gap) : gap.addBlank ≠ .none := by
  cases gap <;> decide

theorem Gap.addNewline_ne_none (gap : Gap) : gap.addNewline ≠ .none := by
  cases gap <;> decide

/-- **One line.**  The pass over a line writes its words behind the gap in front of it,
and nothing if there are none. -/
theorem linePass_runFrom_line {line : Text} (hline : '\n' ∉ line)
    (hsupported : ∀ c ∈ line, isUnsupported c = false) {gap : Gap} (hgap : gap ≠ .none) :
    ∃ gap' : Gap,
      gap'.addNewline = (if spaceWords line = [] then gap.addNewline else .newline)
      ∧ ∀ rest, linePass.runFrom gap (line ++ rest)
        = (if spaceWords line = [] then [] else gap.text ++ spaceWords line)
          ++ linePass.runFrom gap' rest := by
  have hword : ∀ {w : Text}, (∀ c ∈ w, isBlank c = false) → (∀ c ∈ w, isUnsupported c = false) →
      ∀ c ∈ w, isSpacing c = false :=
    fun hblank hw c hc => isSpacing_eq_false_iff.2 ⟨hblank c hc, hw c hc⟩
  induction line using Text.induction_on_runs isBlank generalizing gap with
  | last w hw =>
    rw [spaceWords_of_forall hw]
    by_cases hnil : w = []
    · refine ⟨gap, by rw [if_pos hnil], fun rest => ?_⟩
      rw [if_pos hnil, hnil]
      rfl
    · refine ⟨.none, by rw [if_neg hnil]; rfl, fun rest => ?_⟩
      rw [if_neg hnil, isGapPass_linePass.runFrom_word hnil (hword hw hsupported)]
  | next w c t hw hc ih =>
    rw [List.mem_append, List.mem_cons, not_or, not_or] at hline
    rw [List.forall_mem_append, List.forall_mem_cons] at hsupported
    obtain ⟨-, hbreak, hline⟩ := hline
    obtain ⟨hwsupported, -, htsupported⟩ := hsupported
    -- the blank behind the word joins the gap in front of the rest of the line
    have hblank : ∀ (gap : Gap) (t : Text),
        linePass.runFrom gap (c :: t) = linePass.runFrom gap.addBlank t := by
      intro gap t
      rw [linePass_runFrom_blank hc, Gap.grow, if_neg (Ne.symm hbreak)]
    rw [spaceWords_append_cons hw hc]
    by_cases hnil : w = []
    · obtain ⟨gap', hnext, hrun⟩ := ih hline htsupported gap.addBlank_ne_none
      rw [if_pos hnil]
      refine ⟨gap', by rw [hnext, gap.addNewline_addBlank], fun rest => ?_⟩
      rw [hnil, List.nil_append, List.cons_append, hblank, hrun, Gap.text_addBlank hgap]
    · obtain ⟨gap', hnext, hrun⟩ := ih hline htsupported (show Gap.space ≠ .none by decide)
      have hfirst : ∀ rest, linePass.runFrom gap (w ++ c :: t ++ rest)
          = gap.text ++ w ++ linePass.runFrom .space (t ++ rest) := by
        intro rest
        rw [List.append_assoc, isGapPass_linePass.runFrom_word hnil (hword hw hwsupported),
          List.cons_append, hblank]
        rfl
      have hwritten : (if spaceWords t = [] then w else w ++ ' ' :: spaceWords t) ≠ [] := by
        split <;> simp [hnil]
      rw [if_neg hnil]
      refine ⟨gap', ?_, fun rest => ?_⟩
      · rw [hnext, if_neg hwritten]
        split <;> rfl
      · rw [hfirst, hrun, if_neg hwritten]
        split
        · rw [List.nil_append]
        · simp [Gap.text]

/-! ## The pass over lines -/

/-- Lines one after the other: an empty line makes the gap grow, any other is
written behind it. -/
def writeLines : Gap → List Text → Text
  | _, [] => []
  | gap, line :: lines =>
    if line = [] then writeLines gap.addNewline lines
    else gap.text ++ line ++ writeLines .newline lines

/-- A line that is not empty is written behind the gap in front of it. -/
theorem writeLines_cons {line : Text} (h : line ≠ []) (gap : Gap) (lines : List Text) :
    writeLines gap (line :: lines) = gap.text ++ line ++ writeLines .newline lines := by
  rw [writeLines, if_neg h]

/-- **Lines.**  The pass over a text writes its lines one after the other. -/
theorem linePass_runFrom_lines {t : Text} (hsupported : ∀ c ∈ t, isUnsupported c = false) {gap : Gap}
    (hgap : gap ≠ .none) :
    linePass.runFrom gap t = writeLines gap ((t.splitOn '\n').map spaceWords) := by
  unfold List.splitOn
  induction t using Text.induction_on_runs (· == '\n') generalizing gap with
  | last line hline =>
    have hbreak : '\n' ∉ line := fun hmem => absurd (hline _ hmem) (by decide)
    obtain ⟨gap', -, hrun⟩ := linePass_runFrom_line hbreak hsupported hgap
    have hwritten := hrun []
    rw [List.append_nil] at hwritten
    rw [hwritten, Text.splitOnP_of_forall hline]
    simp only [List.map_cons, List.map_nil, writeLines]
    split <;> rfl
  | next line c t hline hc ih =>
    obtain rfl : c = '\n' := by simpa using hc
    have hbreak : '\n' ∉ line := fun hmem => absurd (hline _ hmem) (by decide)
    rw [List.forall_mem_append, List.forall_mem_cons] at hsupported
    obtain ⟨gap', hnext, hrun⟩ := linePass_runFrom_line hbreak hsupported.1 hgap
    have hstep : linePass.runFrom gap' ('\n' :: t) = linePass.runFrom gap'.addNewline t :=
      linePass_runFrom_blank rfl gap' t
    have hsplit : (line ++ '\n' :: t).splitOnP (· == '\n') = line :: t.splitOnP (· == '\n') := by
      rw [List.splitOnP_append_cons line t (p := (· == '\n')) rfl,
        Text.splitOnP_of_forall hline]
      rfl
    rw [hrun, hstep, ih hsupported.2.2 gap'.addNewline_ne_none, hnext, hsplit, List.map_cons,
      writeLines]
    split <;> rfl

/-! ## Lines with line breaks between them -/

/-- Lines without the empty ones at both ends. -/
def trimLines (lines : List Text) : List Text :=
  (lines.dropWhile List.isEmpty).rdropWhile List.isEmpty

/-- Lines with one empty line for each run of empty lines. -/
def collapseLines : List Text → List Text
  | [] => []
  | [] :: [] :: lines => collapseLines ([] :: lines)
  | line :: lines => line :: collapseLines lines

/-- Behind a line that is not empty all empty lines count. -/
theorem collapseLines_cons {line : Text} (h : line ≠ []) (lines : List Text) :
    collapseLines (line :: lines) = line :: collapseLines lines := by
  cases line with
  | nil => exact absurd rfl h
  | cons c line => rw [collapseLines]; simp

/-- An empty line is kept in front of one that is not. -/
theorem collapseLines_nil_cons {line : Text} (h : line ≠ []) (lines : List Text) :
    collapseLines ([] :: line :: lines) = [] :: line :: collapseLines lines := by
  rw [← collapseLines_cons h]
  cases line with
  | nil => exact absurd rfl h
  | cons c line => rw [collapseLines]; simp

/-- Lines are left of lines. -/
theorem collapseLines_ne_nil {lines : List Text} (h : lines ≠ []) : collapseLines lines ≠ [] := by
  fun_induction collapseLines lines with
  | case1 => exact h
  | case2 lines ih => exact ih (List.cons_ne_nil _ _)
  | case3 => exact List.cons_ne_nil _ _

/-- Behind a line, lines are written with line breaks between them: one in front
of them if no empty line came in between, and one more if any did. -/
theorem writeLines_behind {lines : List Text} (hne : lines ≠ []) (hlast : lines.getLast hne ≠ []) :
    writeLines .newline lines = '\n' :: List.intercalate ['\n'] (collapseLines lines)
      ∧ writeLines .blankLine lines
        = '\n' :: List.intercalate ['\n'] (collapseLines ([] :: lines)) := by
  induction lines with
  | nil => exact absurd rfl hne
  | cons line lines ih =>
    by_cases hlines : lines = []
    · subst hlines
      have hline : line ≠ [] := hlast
      rw [collapseLines_nil_cons hline, collapseLines_cons hline, writeLines_cons hline,
        writeLines_cons hline]
      simp [Gap.text, writeLines, collapseLines]
    · have hlast' : lines.getLast hlines ≠ [] := by rwa [List.getLast_cons hlines] at hlast
      obtain ⟨hnewline, hblank⟩ := ih hlines hlast'
      by_cases hline : line = []
      · subst hline
        rw [writeLines, writeLines, if_pos rfl, if_pos rfl]
        exact ⟨hblank, hblank⟩
      · rw [collapseLines_nil_cons hline, collapseLines_cons hline, writeLines_cons hline,
          writeLines_cons hline, hnewline, List.intercalate_cons_of_ne_nil (List.cons_ne_nil _ _),
          List.intercalate_cons_of_ne_nil (collapseLines_ne_nil hlines)]
        simp [Gap.text]

/-- Empty lines at the start of a text are not written. -/
theorem writeLines_dropWhile (lines : List Text) :
    writeLines .start (lines.dropWhile List.isEmpty) = writeLines .start lines := by
  induction lines with
  | nil => rfl
  | cons line lines ih =>
    cases line with
    | nil =>
      rw [List.dropWhile_cons_of_pos rfl, ih, writeLines, if_pos rfl]
      rfl
    | cons c line => rw [List.dropWhile_cons_of_neg (by simp)]

/-- Empty lines at the end of a text are not written. -/
theorem writeLines_rdropWhile (gap : Gap) (lines : List Text) :
    writeLines gap (lines.rdropWhile List.isEmpty) = writeLines gap lines := by
  have hlast : ∀ (lines : List Text) (gap : Gap),
      writeLines gap (lines ++ [[]]) = writeLines gap lines := by
    intro lines
    induction lines with
    | nil => exact fun _ => rfl
    | cons line lines ih =>
      intro gap
      rw [List.cons_append, writeLines, writeLines, ih, ih]
  induction lines using List.reverseRecOn with
  | nil => rfl
  | append_singleton lines line ih =>
    cases line with
    | nil => rw [List.rdropWhile_concat_pos _ _ _ rfl, ih, hlast]
    | cons c line => rw [List.rdropWhile_concat_neg _ _ _ (by simp)]

/-- Lines written from the start of a text are those left when the empty ones at
both ends are trimmed and runs of empty ones collapse, with line breaks between. -/
theorem writeLines_start (lines : List Text) :
    writeLines .start lines = List.intercalate ['\n'] (collapseLines (trimLines lines)) := by
  have htrimmed : writeLines .start (trimLines lines) = writeLines .start lines := by
    rw [trimLines, writeLines_rdropWhile, writeLines_dropWhile]
  have hlast : ∀ hne : trimLines lines ≠ [], (trimLines lines).getLast hne ≠ [] := by
    intro hne hnil
    exact List.rdropWhile_last_not _ _ hne (List.isEmpty_iff.2 hnil)
  rw [← htrimmed]
  cases htrim : trimLines lines with
  | nil => rfl
  | cons line rest =>
    have hline : line ≠ [] := by
      obtain ⟨more, hmore⟩ : trimLines lines <+: lines.dropWhile List.isEmpty :=
        List.rdropWhile_prefix _ _
      have hhead := List.head?_dropWhile_not List.isEmpty lines
      rw [← hmore, htrim] at hhead
      simpa using hhead
    rw [collapseLines_cons hline, writeLines_cons hline]
    by_cases hrest : rest = []
    · subst hrest
      simp [Gap.text, writeLines, collapseLines]
    · simp only [htrim] at hlast
      have hlast' := hlast (List.cons_ne_nil line rest)
      rw [List.getLast_cons hrest] at hlast'
      rw [(writeLines_behind hrest hlast').1,
        List.intercalate_cons_of_ne_nil (collapseLines_ne_nil hrest)]
      simp [Gap.text]

/-- **Line by line.**  A text in its normal spacing is read off its lines: the line
breaks are unified and the unsupported characters deleted, each line is replaced
by its words with single spaces between them, the empty lines at both ends are
dropped, each run of them collapses to one, and line breaks join what is left. -/
theorem normaliseLines_eq_lines (t : Text) :
    normaliseLines t
      = List.intercalate ['\n'] (collapseLines (trimLines
          ((((unifyBreaks t).filter fun c => !isUnsupported c).splitOn '\n').map spaceWords))) := by
  have hsupported : ∀ c ∈ stripUnsupported (unifyBreaks t), isUnsupported c = false :=
    fun c hc => isUnsupported_of_mem_strip hc
  calc normaliseLines t
      = linePass.run (stripUnsupported (unifyBreaks t)) := by
        rw [normaliseLines, normaliseNewlines_eq]
    _ = writeLines .start (((stripUnsupported (unifyBreaks t)).splitOn '\n').map spaceWords) :=
        linePass_runFrom_lines hsupported (by decide)
    _ = _ := writeLines_start _

end MessageTemplate

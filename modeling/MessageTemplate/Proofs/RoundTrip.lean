/-
# Content without placeholders

Content without placeholders is sent as it was written, but for its spacing.
The email in plain text is the hard case, since it is taken apart into lines
and blocks and put together again.  A text in normal spacing has lines in
normal spacing, with at most one blank line between any two of them
(`Spaced.paragraphs_linesOf`), so the paragraphs read from such lines, with
their line breaks and with blank lines between them, are the text again
(`Markdown.plainText_of_spaced`).
-/
import Mathlib
import MessageTemplate.Message.Basic
import MessageTemplate.Proofs.Body
import MessageTemplate.Proofs.NormalForm
import MessageTemplate.Proofs.Outline

namespace MessageTemplate

/-! ## Lines -/

/-- What was read of a line before goes to the front of the first line. -/
theorem splitPass_runFrom (read t : Text) :
    splitPass.runFrom read t = (t.splitOn '\n').modifyHead (read.reverse ++ ·) := by
  induction t generalizing read with
  | nil =>
    rw [Transducer.runFrom_nil]
    simp [splitPass]
  | cons c t ih =>
    unfold List.splitOn at ih ⊢
    rw [List.splitOnP_cons_eq_if_modifyHead]
    by_cases hc : c = '\n'
    · rw [hc, Markdown.splitPass_newline, ih]
      simp only [List.reverse_nil, List.nil_append, beq_self_eq_true, if_true,
        List.modifyHead_cons, List.append_nil]
      congr 1
      exact congrFun List.modifyHead_id _
    · rw [Markdown.splitPass_char hc, ih, if_neg (by simpa using hc), List.modifyHead_modifyHead]
      congr 1
      funext line
      simp

theorem linesOf_eq_splitOn (t : Text) : linesOf t = t.splitOn '\n' := by
  rw [linesOf, Transducer.run, splitPass_runFrom]
  exact congrFun List.modifyHead_id _

/-- The lines of a text with line breaks between them are the text. -/
theorem intercalate_linesOf (t : Text) : List.intercalate ['\n'] (linesOf t) = t := by
  rw [linesOf_eq_splitOn]
  exact List.intercalate_splitOn '\n'

/-- A line break in front of a text stands behind an empty line. -/
theorem linesOf_newline (t : Text) : linesOf ('\n' :: t) = [] :: linesOf t :=
  Markdown.splitPass_newline [] t

/-- Any other character in front of a text belongs to its first line. -/
theorem linesOf_cons {c : Char} (hc : c ≠ '\n') {t line : Text} {rest : List Text}
    (h : linesOf t = line :: rest) : linesOf (c :: t) = (c :: line) :: rest := by
  rw [linesOf, Transducer.run, Markdown.splitPass_char hc, splitPass_runFrom, ← linesOf_eq_splitOn,
    h]
  rfl

/-! ## Paragraphs of lines -/

/-- Lines in normal spacing, with one blank line or none between any two. -/
inductive Paragraphs : List Text → Prop
  | last {line : Text} : Spaced line → Paragraphs [line]
  | next {line : Text} {rest : List Text} :
    Spaced line → Paragraphs rest → Paragraphs (line :: rest)
  | gap {line : Text} {rest : List Text} :
    Spaced line → Paragraphs rest → Paragraphs (line :: [] :: rest)

/-- There is a first line, and what it is put in for makes no difference to the others. -/
theorem Paragraphs.exists_first {lines : List Text} (h : Paragraphs lines) :
    ∃ line rest, lines = line :: rest ∧ Spaced line
      ∧ ∀ line', Spaced line' → Paragraphs (line' :: rest) := by
  cases h with
  | last hline => exact ⟨_, [], rfl, hline, fun _ => .last⟩
  | next hline hrest => exact ⟨_, _, rfl, hline, fun _ h => .next h hrest⟩
  | gap hline hrest => exact ⟨_, _, rfl, hline, fun _ h => .gap h hrest⟩

/-- **Lines.**  The lines of a text in normal spacing are in normal spacing,
with one blank line or none between any two. -/
theorem Spaced.paragraphs_linesOf {t : Text} (h : Spaced t) : Paragraphs (linesOf t) := by
  induction h with
  | @single c hc =>
    rw [linesOf_cons (ne_newline_of_isSpacing hc).1 (show linesOf [] = [[]] from rfl)]
    exact .last (.single hc)
  | @cons c t gap hc ht ih =>
    have hn := (ne_newline_of_isSpacing hc).1
    obtain ⟨line, rest, hlines, hline, hput⟩ := ih.exists_first
    -- a gap within a line joins its two sides, a longer gap parts them
    cases gap with
    | start | none =>
      show Paragraphs (linesOf (c :: t))
      rw [linesOf_cons hn hlines]
      exact hput _ (.cons .none hc hline)
    | space =>
      show Paragraphs (linesOf (c :: ' ' :: t))
      rw [linesOf_cons hn (linesOf_cons (by decide) hlines)]
      exact hput _ (.cons .space hc hline)
    | newline =>
      show Paragraphs (linesOf (c :: '\n' :: t))
      rw [linesOf_cons hn (linesOf_newline t)]
      exact .next (.single hc) ih
    | blankLine =>
      show Paragraphs (linesOf (c :: '\n' :: '\n' :: t))
      rw [linesOf_cons hn (linesOf_newline _), linesOf_newline]
      exact .gap (.single hc) ih

/-- A text in normal spacing has no blanks at its ends. -/
theorem Spaced.trim_eq {t : Text} (h : Spaced t) : t.trim = t := by
  have hend : t.trimEnd = t := by
    induction h with
    | single hc =>
      rw [Text.trimEnd_cons, if_neg (by simp [(isSpacing_eq_false_iff.1 hc).1])]
      rfl
    | @cons c t gap hc ht ih =>
      have hne : t ≠ [] := by
        rintro rfl
        exact ht.unspaced_ne_nil rfl
      have hgap : (gap.text ++ t).trimEnd = gap.text ++ t := by
        cases gap <;> simp [Gap.text, Text.trimEnd_cons, ih, hne]
      rw [Text.trimEnd_cons, if_neg (by simp [(isSpacing_eq_false_iff.1 hc).1]), hgap]
  have hfront : t.dropWhile isBlank = t := by
    cases h with
    | single hc | cons _ hc _ =>
      rw [List.dropWhile_cons_of_neg (by simp [(isSpacing_eq_false_iff.1 hc).1])]
  rw [Text.trim, hfront, hend]

/-! ## Lines without markers -/

namespace Markdown

/-- Whether a line has no marker at its start and is no rule. -/
@[mk_iff]
structure Line.IsUnmarked (line : Text) : Prop where
  notRule : isRule line = false
  noHeading : headingTitle? line = none
  noBullet : bulletText? line = none
  noNumber : numberedText? line = none
  noInset : line.head? ≠ some '^'

instance Line.decidableIsUnmarked : DecidablePred Line.IsUnmarked :=
  fun line => decidable_of_iff _ (Line.isUnmarked_iff line).symm

/-- A line in normal spacing and without a marker is plain. -/
theorem Line.IsUnmarked.read_eq {line : Text} (h : IsUnmarked line) (hspaced : Spaced line) :
    Line.read line = .plain line := by
  have hinset : insetText? line = none := by
    cases line with
    | nil => rfl
    | cons c rest =>
      have hc : c ≠ '^' := by
        rintro rfl
        exact h.noInset rfl
      unfold insetText?
      split
      · rename_i heq
        exact absurd (List.cons.inj heq).1 hc
      · rfl
  have hne : line.isEmpty = false := by
    rw [List.isEmpty_eq_false_iff]
    rintro rfl
    exact hspaced.unspaced_ne_nil rfl
  rw [read, hspaced.trim_eq, ofTrimmed, hne, h.notRule, h.noHeading, h.noBullet, h.noNumber, hinset]
  rfl

/-- Two rows of texts with the same text between any two. -/
theorem intercalate_append {between : Text} {texts texts' : List Text} (h : texts ≠ [])
    (h' : texts' ≠ []) :
    List.intercalate between (texts ++ texts')
      = List.intercalate between texts ++ between ++ List.intercalate between texts' := by
  induction texts with
  | nil => exact absurd rfl h
  | cons t rest ih =>
    by_cases hrest : rest = []
    · rw [hrest, List.singleton_append, List.intercalate_cons_of_ne_nil h',
        List.intercalate_singleton]
    · rw [List.cons_append, List.intercalate_cons_of_ne_nil (by simp [h']), ih hrest,
        List.intercalate_cons_of_ne_nil hrest]
      simp only [List.append_assoc]

/-- An empty line between lines is a blank line between the texts they make up. -/
theorem intercalate_blankLine {lines lines' : List Text} (h : lines ≠ []) (h' : lines' ≠ []) :
    List.intercalate ['\n'] (lines ++ [] :: lines')
      = List.intercalate ['\n'] lines ++ ['\n', '\n'] ++ List.intercalate ['\n'] lines' := by
  rw [intercalate_append h (List.cons_ne_nil [] lines'), List.intercalate_cons_of_ne_nil h']
  simp only [List.nil_append, List.append_assoc, List.cons_append]

/-- A line in normal spacing and without a marker joins an open paragraph. -/
theorem blockPass_runFrom_line {line : Text} (hspaced : Spaced line) (h : Line.IsUnmarked line)
    (held rest : List Text) :
    blockPass.runFrom (.paragraph held) ((line :: rest).map Line.read)
      = blockPass.runFrom (.paragraph (line :: held)) (rest.map Line.read) := by
  rw [List.map_cons, h.read_eq hspaced, Transducer.runFrom_cons]
  rfl

/-- **Paragraphs.**  Behind the lines of an open paragraph, lines without
markers are read as blocks that make up these lines again. -/
theorem blockPass_runFrom_paragraphs {lines : List Text} (h : Paragraphs lines)
    (hunmarked : ∀ line ∈ lines, Line.IsUnmarked line) (held : List Text) :
    ∃ block rest, blockPass.runFrom (.paragraph held) (lines.map Line.read) = block :: rest
      ∧ List.intercalate ['\n', '\n'] ((block :: rest).map Block.plainText)
        = List.intercalate ['\n'] (held.reverse ++ lines) := by
  induction h generalizing held with
  | @last line hline =>
    have hread := blockPass_runFrom_line hline (hunmarked _ List.mem_cons_self) held []
    refine ⟨.paragraph (line :: held).reverse, [], hread, ?_⟩
    rw [List.map_singleton, List.intercalate_singleton, List.reverse_cons]
    rfl
  | @next line lines hline _ ih =>
    have hrest := fun l hl => hunmarked l (List.mem_cons_of_mem line hl)
    obtain ⟨block, rest, hrun, htext⟩ := ih hrest (line :: held)
    refine ⟨block, rest, ?_, ?_⟩
    · rw [blockPass_runFrom_line hline (hunmarked _ List.mem_cons_self), hrun]
    · rw [htext, List.reverse_cons, List.append_assoc, List.singleton_append]
  | @gap line lines hline hlines ih =>
    have hrest := fun l hl => hunmarked l (List.mem_cons_of_mem line (List.mem_cons_of_mem [] hl))
    obtain ⟨block, rest, hrun, htext⟩ := ih hrest []
    -- a blank line closes the paragraph, and the line behind it opens the next one
    have hopen : blockPass.runFrom .none (lines.map Line.read) = block :: rest := by
      obtain ⟨first, others, rfl, hfirst, -⟩ := hlines.exists_first
      rw [← hrun, List.map_cons, (hrest _ List.mem_cons_self).read_eq hfirst,
        Transducer.runFrom_cons, Transducer.runFrom_cons]
      rfl
    have hclose : blockPass.runFrom (.paragraph (line :: held)) (([] :: lines).map Line.read)
        = .paragraph (line :: held).reverse :: block :: rest := by
      rw [List.map_cons, Transducer.runFrom_cons, ← hopen]
      rfl
    refine ⟨.paragraph (line :: held).reverse, block :: rest, ?_, ?_⟩
    · rw [blockPass_runFrom_line hline (hunmarked _ List.mem_cons_self), hclose]
    · have hne : lines ≠ [] := by
        rintro rfl
        cases hlines
      have hlast : held.reverse ++ line :: [] :: lines
          = (line :: held).reverse ++ [] :: lines := by simp
      rw [List.map_cons, List.map_cons, List.intercalate_cons_cons, ← List.map_cons, htext, hlast,
        intercalate_blankLine (by simp) hne]
      rfl

/-- **Plain text.**  A text in normal spacing, none of whose lines has a marker,
is the plain text of its own blocks. -/
theorem plainText_of_spaced {t : Text} (h : Spaced t)
    (hunmarked : ∀ line ∈ linesOf t, Line.IsUnmarked line) : plainText t = t := by
  have hlines := h.paragraphs_linesOf
  obtain ⟨block, rest, hrun, htext⟩ := blockPass_runFrom_paragraphs hlines hunmarked []
  obtain ⟨first, others, hfirst, hspaced, -⟩ := hlines.exists_first
  have hblocks : blocks t = block :: rest := by
    rw [blocks, Transducer.run, ← hrun, hfirst, List.map_cons,
      (hunmarked first (hfirst ▸ List.mem_cons_self)).read_eq hspaced, Transducer.runFrom_cons,
      Transducer.runFrom_cons]
    rfl
  calc plainText t
      = List.intercalate ['\n', '\n'] ((block :: rest).map Block.plainText) := by
        rw [plainText, hblocks]
    _ = List.intercalate ['\n'] (linesOf t) := htext
    _ = t := intercalate_linesOf t

end Markdown

/-! ## Content without placeholders -/

/-- Content without placeholders is written as it is where nothing is made safe. -/
theorem Substitution.render_of_no_placeholder {s : Substitution} (hs : s.html = .passthrough)
    {content : Text} (h : ∀ p, Segment.placeholder p ∉ segments content)
    (values : Personalisation) : s.render values content = content := by
  have hnode : ∀ segment ∈ segments content,
      s.writeNode values segment.node = segment.source := by
    intro segment hsegment
    cases segment with
    | text t =>
      rw [Segment.node, writeNode, sanitise, hs]
      rfl
    | placeholder p => exact absurd hsegment (h p)
  rw [render, writeNodes, Node.read_eq, List.flatMap_map]
  exact (List.flatMap_congr hnode).trans (source_segments content)

namespace Draft

variable {d : Draft}

/-- The body of a draft without placeholders is its content in normal spacing. -/
theorem plainBody_of_no_placeholder (h : ∀ p, Segment.placeholder p ∉ segments d.spec.content) :
    d.plainBody = normaliseLines d.spec.content := by
  rw [plainBody, Substitution.render_of_no_placeholder rfl h]

end Draft

/-- A text with normalised lines has normalised lines when it is sent. -/
theorem Draft.normaliseLines_sendable (d : Draft) (t : Text) :
    normaliseLines (d.sendable (normaliseLines t)) = d.sendable (normaliseLines t) := by
  unfold sendable
  split
  · rw [Gsm.downgrade_normaliseLines, normaliseLines_normaliseLines]
  · exact normaliseLines_normaliseLines t

namespace Message

/-- **Content without placeholders.**  A text message without a service name
and a broadcast are the content in normal spacing, downgraded if the options
ask for that, and are in normal spacing; and so is the email in plain text if
typography changes nothing and no line has a marker. -/
theorem content_without_placeholders_kept (d : Draft)
    (hcontent : ∀ p, Segment.placeholder p ∉ segments d.spec.content)
    (hname : d.options.visibleServiceName = none) :
    let t := normaliseLines d.spec.content
    let sent := if d.options.downgrade then Gsm.downgrade t else t
    (Message.mk .smsMessage d).rendered = sent
      ∧ (Message.mk .broadcastMessage d).rendered = sent
      ∧ normaliseLines sent = sent
      ∧ (niceTypography false t = t → (∀ line ∈ linesOf t, Markdown.Line.IsUnmarked line) →
        (Message.mk .plainTextEmail d).rendered = t) := by
  intro t sent
  have hbody : d.plainBody = t := Draft.plainBody_of_no_placeholder hcontent
  refine ⟨?_, ?_, ?_, ?_⟩
  · show d.sendable (withServiceName d.options.visibleServiceName d.plainBody) = sent
    rw [hname, hbody]
    rfl
  · show d.sendable d.plainBody = sent
    rw [hbody]
    rfl
  · exact d.normaliseLines_sendable d.spec.content
  · intro htypography hunmarked
    show Markdown.plainText (niceTypography false d.plainBody) = t
    rw [hbody, htypography]
    rcases spaced_normaliseLines d.spec.content with hnil | hspaced
    · show Markdown.plainText (normaliseLines d.spec.content) = normaliseLines d.spec.content
      rw [hnil]
      rfl
    · exact Markdown.plainText_of_spaced hspaced hunmarked

/-- Opening brackets that start no placeholder are kept, and lines stay lines. -/
theorem open_brackets_kept :
    let d : Draft := ⟨⟨" One ((,\r\ntwo…\n\n\n\u200bthree\tł ".toList, none, .sms⟩, {}, .empty⟩
    (∀ p, Segment.placeholder p ∉ segments d.spec.content)
      ∧ d.options.visibleServiceName = none
      ∧ (Message.mk .smsMessage d).rendered = "One ((,\ntwo...\n\nthree ?".toList
      ∧ (Message.mk .plainTextEmail d).rendered = "One ((,\ntwo…\n\nthree ł".toList := by
  intro d
  have hsegments : segments d.spec.content = [.text d.spec.content] := by cbv
  have hcontent : ∀ p, Segment.placeholder p ∉ segments d.spec.content := by
    intro p
    rw [hsegments]
    simp
  have hlines : normaliseLines d.spec.content = "One ((,\ntwo…\n\nthree ł".toList := by
    decide +kernel
  obtain ⟨hsms, -, -, hemail⟩ := content_without_placeholders_kept d hcontent rfl
  rw [hlines] at hsms hemail
  refine ⟨hcontent, rfl, ?_, ?_⟩
  · rw [hsms]
    decide +kernel
  · apply hemail
    · decide +kernel
    · have hsplit : linesOf "One ((,\ntwo…\n\nthree ł".toList
          = ["One ((,".toList, "two…".toList, [], "three ł".toList] := by decide +kernel
      rw [hsplit]
      decide +kernel

end Message

end MessageTemplate

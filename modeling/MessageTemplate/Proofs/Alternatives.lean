/-
# The alternatives of an email

The HTML of an email and its plain text are read as markdown from two texts
made of one template.  In the one there are entities, the tags of
placeholders, quotes chosen past tags, and anchors.  None of these starts with
a marker or breaks a line, so the two texts have the same outline
(`Draft.outlines_markdown`) and are divided into the same blocks
(`Draft.alternatives_share_blocks`).
-/
import Mathlib
import MessageTemplate.Message.Email
import MessageTemplate.Proofs.Respelling
import MessageTemplate.Proofs.Substitution

namespace MessageTemplate

/-! ## Templates -/

/-- A spelling of a word that no pass changes and that cuts the outline where
it stands. -/
structure IsSpelling (w : Text) : Prop where
  phrase : Phrase w
  inline : IsInline w

/-- Spellings keep the outline. -/
theorem Respelled.inline {t u : Text} (h : Respelled IsSpelling t u) : Respelled IsInline t u := by
  induction h with
  | nil => exact .nil
  | char c _ ih => exact .char c ih
  | word hv hw _ ih => exact .word hv.inline hw.inline ih

/-- A word that starts with no marker is a spelling. -/
theorem IsWord.isSpelling {w : Text} (hw : IsWord w)
    (hhead : w.head?.any Markdown.isMarker = false) : IsSpelling w :=
  ⟨.word hw, hhead, hw.ne_nil, (Phrase.word hw).newline_not_mem⟩

/-- The entities and the characters they stand for are spellings. -/
theorem isSpelling_markup :
    ∀ w ∈ ["&amp;".toList, "&lt;".toList, "&gt;".toList, ['&'], ['<'], ['>']], IsSpelling w := by
  have hword : ∀ w ∈ ["&amp;".toList, "&lt;".toList, "&gt;".toList, ['&'], ['<'], ['>']],
      IsWord w ∧ w.head?.any Markdown.isMarker = false := by
    decide
  exact fun w hw => (hword w hw).1.isSpelling (hword w hw).2

/-- A character is spelled as an entity, or as itself. -/
theorem respelled_entity (c : Char) : Respelled IsSpelling (Html.entity c) [c] := by
  unfold Html.entity
  by_cases hamp : c = '&'
  · rw [if_pos hamp, hamp]
    exact .single (isSpelling_markup _ (by simp)) (isSpelling_markup _ (by simp))
  rw [if_neg hamp]
  by_cases hlt : c = '<'
  · rw [if_pos hlt, hlt]
    exact .single (isSpelling_markup _ (by simp)) (isSpelling_markup _ (by simp))
  rw [if_neg hlt]
  by_cases hgt : c = '>'
  · rw [if_pos hgt, hgt]
    exact .single (isSpelling_markup _ (by simp)) (isSpelling_markup _ (by simp))
  rw [if_neg hgt]
  exact Respelled.refl _

/-- A text is spelled with entities, or as it is. -/
theorem respelled_escape (t : Text) : Respelled IsSpelling (Html.escape t) t := by
  have hflat : Respelled IsSpelling (t.flatMap Html.entity) (t.flatMap fun c => [c]) :=
    Respelled.compositional.flatMap fun c _ => respelled_entity c
  rwa [List.flatMap_singleton'] at hflat

namespace Draft

variable (d : Draft)

/-- A placeholder without a value is marked in a span, or in its brackets alone. -/
theorem respelled_missing (name : Text) :
    Respelled IsSpelling (d.markupSubstitution.missing name)
      (d.plainSubstitution.missing name) := by
  cases hredact : d.options.redactMissing with
  | true =>
    have hmarkup : d.markupSubstitution.redactMissing = true := hredact
    have hplain : d.plainSubstitution.redactMissing = true := hredact
    rw [Substitution.missing_of_redactMissing hmarkup, Substitution.missing_of_redactMissing hplain]
    exact .nil
  | false =>
    have hmarkup : ¬ d.markupSubstitution.redactMissing = true := Bool.eq_false_iff.1 hredact
    have hplain : ¬ d.plainSubstitution.redactMissing = true := Bool.eq_false_iff.1 hredact
    unfold Substitution.missing
    rw [if_neg hmarkup, if_neg hplain]
    show Respelled IsSpelling
      ("<span class='placeholder'>((".toList ++ Html.escape name ++ "))</span>".toList)
      ("((".toList ++ name ++ "))".toList)
    have hopening : IsSpelling "<span class='placeholder'>((".toList := by
      refine ⟨?_, by decide, by decide, by decide⟩
      exact .cons (w := "<span".toList) (t := "class='placeholder'>((".toList) (by decide)
        (.word (by decide))
    have hword : ∀ w ∈ ["((".toList, "))</span>".toList, "))".toList],
        IsWord w ∧ w.head?.any Markdown.isMarker = false := by
      decide
    have hspelling : ∀ w ∈ ["((".toList, "))</span>".toList, "))".toList], IsSpelling w :=
      fun w hw => (hword w hw).1.isSpelling (hword w hw).2
    have hopen : Respelled IsSpelling "<span class='placeholder'>((".toList "((".toList :=
      .single hopening (hspelling _ (by simp))
    have hclose : Respelled IsSpelling "))</span>".toList "))".toList :=
      .single (hspelling _ (by simp)) (hspelling _ (by simp))
    exact (hopen.append (respelled_escape name)).append hclose

/-- **Bodies.**  The body in markup is the body in plain text, some words of
which are spelled with tags and entities. -/
theorem respelled_markupBody : Respelled IsSpelling d.markupBody d.plainBody := by
  have hlists : d.markupSubstitution.markdownLists = d.plainSubstitution.markdownLists := rfl
  have hrender : Respelled IsSpelling (d.markupSubstitution.render d.values d.spec.content)
      (d.plainSubstitution.render d.values d.spec.content) :=
    Substitution.render_related Respelled.compositional hlists respelled_escape
      fun name _ => d.respelled_missing name
  exact hrender.normaliseLines fun _ hw => hw.phrase

end Draft

/-! ## Dashes -/

namespace Markdown

/-- A line break, or a character that is no marker, is written behind what was
held back. -/
theorem dashPass_runFrom_cons {c : Char} (hc : c = '\n' ∨ isMarker c = false) (s : DashState)
    (t : Text) : dashPass.runFrom s (c :: t) = s.held ++ c :: dashPass.runFrom .text t := by
  have hplain : isSpaceOrTab c = false ∧ isDash c = false := by
    rcases hc with rfl | hc
    · decide
    · obtain ⟨hblank, hdash, -⟩ := isMarker_eq_false_iff.1 hc
      exact ⟨isSpaceOrTab_of_isBlank hblank, hdash⟩
  rw [Transducer.runFrom_cons, dashPass_step_of_plain hplain.1 hplain.2]
  simp

/-- Whether the dash pass holds back markers only, within a line. -/
def HoldsMarkers (s : DashState) : Prop :=
  ∀ d ∈ s.held, d ≠ '\n' ∧ isMarker d = true

/-- **One marker.**  What the dash pass writes for it is in the outline, and
what it then holds back are markers. -/
theorem outlinePass_dashPass_marker {s : DashState} (hs : HoldsMarkers s) {c : Char} (hc : c ≠ '\n')
    (hmarker : isMarker c = true) (t : Text) :
    outlinePass.runFrom false (dashPass.runFrom s (c :: t))
        = (dashPass.step s c).2
          ++ outlinePass.runFrom false (dashPass.runFrom (dashPass.step s c).1 t)
      ∧ HoldsMarkers (dashPass.step s c).1 := by
  have hmem : ∀ d ∈ (dashPass.step s c).2 ++ (dashPass.step s c).1.held,
      d ≠ '\n' ∧ isMarker d = true := by
    intro d hd
    rcases mem_dashPass_step hd with hheld | rfl | rfl | rfl
    · exact hs d hheld
    · exact ⟨hc, hmarker⟩
    · decide
    · decide
  have hwritten : ∀ d ∈ (dashPass.step s c).2, d ≠ '\n' ∧ isMarker d = true :=
    fun d hd => hmem d (List.mem_append_left _ hd)
  rw [Transducer.runFrom_cons, outlinePass_marker_append hwritten]
  exact ⟨rfl, fun d hd => hmem d (List.mem_append_right _ hd)⟩

/-- **One character of a cut line.**  What the dash pass writes for it is not in
the outline, and it then holds back no line break. -/
theorem outlinePass_dashPass_cut {s : DashState} (hs : '\n' ∉ s.held) {c : Char} (hc : c ≠ '\n')
    (t : Text) :
    outlinePass.runFrom true (dashPass.runFrom s (c :: t))
        = outlinePass.runFrom true (dashPass.runFrom (dashPass.step s c).1 t)
      ∧ '\n' ∉ (dashPass.step s c).1.held := by
  have hmem : '\n' ∉ (dashPass.step s c).2 ++ (dashPass.step s c).1.held := by
    intro hn
    rcases mem_dashPass_step hn with hheld | hn | hn | hn
    · exact hs hheld
    · exact hc hn.symm
    · cases hn
    · cases hn
  rw [List.mem_append, not_or] at hmem
  rw [Transducer.runFrom_cons, outlinePass_cut_append hmem.1]
  exact ⟨rfl, hmem.2⟩

/-- **Dashes.**  The outline of a text tells the outline it has with its
spaced dashes replaced. -/
theorem outlines_replaceSpacedHyphens (t : Text) :
    outlines (replaceSpacedHyphens t) = outlines (replaceSpacedHyphens (outlines t)) := by
  -- in an uncut line markers are held back on both sides, in a cut line anything on
  -- the one side and nothing on the other
  have held : ∀ t : Text,
      (∀ s, HoldsMarkers s → outlinePass.runFrom false (dashPass.runFrom s t)
        = outlinePass.runFrom false (dashPass.runFrom s (outlinePass.runFrom false t)))
      ∧ ∀ s : DashState, '\n' ∉ s.held → outlinePass.runFrom true (dashPass.runFrom s t)
        = outlinePass.runFrom true (dashPass.runFrom .text (outlinePass.runFrom true t)) := by
    intro t
    induction t with
    | nil =>
      refine ⟨fun s _ => rfl, fun s hs => ?_⟩
      have hfinish := outlinePass_cut_append hs []
      rw [List.append_nil, ← dashPass_finish] at hfinish
      exact hfinish
    | cons c t ih =>
      have htext : HoldsMarkers .text := fun d hd => absurd hd List.not_mem_nil
      have hunbroken : '\n' ∉ DashState.text.held := List.not_mem_nil
      by_cases hc : c = '\n'
      · subst hc
        constructor
        · intro s hs
          rw [outlinePass_newline, dashPass_runFrom_cons (Or.inl rfl),
            dashPass_runFrom_cons (Or.inl rfl), outlinePass_marker_append hs,
            outlinePass_marker_append hs, outlinePass_newline, outlinePass_newline,
            ih.1 .text htext]
        · intro s hs
          rw [outlinePass_newline, dashPass_runFrom_cons (Or.inl rfl),
            dashPass_runFrom_cons (Or.inl rfl), outlinePass_cut_append hs,
            outlinePass_cut_append hunbroken, outlinePass_newline, outlinePass_newline,
            ih.1 .text htext]
      · constructor
        · intro s hs
          cases hmarker : isMarker c with
          | true =>
            obtain ⟨hleft, hnext⟩ := outlinePass_dashPass_marker hs hc hmarker t
            obtain ⟨hright, -⟩ :=
              outlinePass_dashPass_marker hs hc hmarker (outlinePass.runFrom false t)
            rw [outlinePass_marker hc hmarker, hleft, hright, ih.1 _ hnext]
          | false =>
            have hx : isMarker 'x' = false := by decide
            rw [outlinePass_plain hmarker, dashPass_runFrom_cons (Or.inr hmarker),
              dashPass_runFrom_cons (Or.inr hx), outlinePass_marker_append hs,
              outlinePass_marker_append hs, outlinePass_plain hmarker, outlinePass_plain hx,
              ih.2 .text hunbroken]
        · intro s hs
          obtain ⟨hstep, hnext⟩ := outlinePass_dashPass_cut hs hc t
          rw [outlinePass_cut hc, hstep, ih.2 _ hnext]
  exact (held t).1 .text fun d hd => absurd hd List.not_mem_nil

end Markdown

/-! ## Anchors -/

namespace Html

/-- An anchor is drawn within its line. -/
theorem isInline_anchor (style : LinkStyle) {link : Text}
    (h : ∀ c ∈ link, isLinkCharacter c = true) : IsInline (anchor style link) := by
  have hshown : '\n' ∉ escape (unescape link) :=
    newline_not_mem_of_isLinkCharacter (isLinkCharacter_of_mem_shown h)
  have hattributes : '\n' ∉ style.attributes := by cases style <;> decide
  have haddress : '\n' ∉ if Text.holds schemeMark link then escape (unescape link)
      else "http://".toList ++ escape (unescape link) := by
    split
    · exact hshown
    · rw [List.mem_append, not_or]
      exact ⟨by decide, hshown⟩
  constructor
  · rfl
  · exact List.cons_ne_nil _ _
  · unfold anchor
    simp only [List.mem_append, not_or]
    exact ⟨⟨⟨⟨⟨⟨by decide, hattributes⟩, by decide⟩, haddress⟩, by decide⟩, hshown⟩, by decide⟩

/-- The first letter of a scheme is no marker. -/
theorem isMarker_of_isSchemeLetter {c : Char} (h : isSchemeLetter c = true) :
    Markdown.isMarker c = false := by
  have htable : ∀ n < 128,
      (!(Char.ofNat n).isAlpha || !Markdown.isMarker (Char.ofNat n)) = true := by
    decide +kernel
  simp only [isSchemeLetter, Bool.or_eq_true, beq_iff_eq] at h
  rcases h with (h | rfl) | rfl
  · have hc := of_isAlphanum (p := fun c => !c.isAlpha || !Markdown.isMarker c) htable
      (c := c) (by simp [Char.isAlphanum, h])
    simpa [h] using hc
  · decide
  · decide

/-- A link with a scheme is drawn within its line. -/
theorem IsLink.isInline {link : Text} (h : IsLink false link) : IsInline link := by
  refine ⟨?_, h.ne_nil, newline_not_mem_of_isLinkCharacter h.characters⟩
  have hhead := h.head rfl
  cases link with
  | nil => rfl
  | cons c link => exact isMarker_of_isSchemeLetter hhead

/-- **Anchors.**  Links with a scheme may be written as anchors within their lines. -/
theorem respelled_autolink (style : LinkStyle) (t : Text) :
    Respelled IsInline (autolink style false t) t := by
  have hspans : ∀ t : Text,
      Respelled IsInline ((spans false t).flatMap (Span.html style)) t := by
    intro t
    conv => rhs; rw [← flatMap_source_spans false t]
    refine Respelled.compositional.flatMap fun span hspan => ?_
    cases span with
    | character c => exact Respelled.refl _
    | link link =>
      have hlink := isLink_of_mem_spans hspan
      exact .single (isInline_anchor style hlink.characters) hlink.isInline
  conv => rhs; rw [← flatMap_source_pieces t]
  refine Respelled.compositional.flatMap fun piece _ => ?_
  cases piece with
  | text t => exact hspans t
  | tag t => exact Respelled.refl _

end Html

/-! ## Blocks -/

namespace Draft

variable (d : Draft)

/-- **Outlines.**  The markdown behind the HTML of an email and the markdown
behind its plain text have the same outline. -/
theorem outlines_markdown (links : Html.LinkStyle) :
    Markdown.outlines (d.markupMarkdown links) = Markdown.outlines d.plainMarkdown := by
  have hbody : Respelled IsInline d.markupBody d.plainBody := d.respelled_markupBody.inline
  calc Markdown.outlines (d.markupMarkdown links)
      = Markdown.outlines (replaceSpacedHyphens (smartenQuotes true d.markupBody)) :=
        (Html.respelled_autolink links _).outlines_eq
    _ = Markdown.outlines
          (replaceSpacedHyphens (Markdown.outlines (smartenQuotes true d.markupBody))) :=
        Markdown.outlines_replaceSpacedHyphens _
    _ = Markdown.outlines (replaceSpacedHyphens (Markdown.outlines d.markupBody)) := by
        rw [(respelled_smartenQuotes true d.markupBody).outlines_eq]
    _ = Markdown.outlines (replaceSpacedHyphens (Markdown.outlines d.plainBody)) := by
        rw [hbody.outlines_eq]
    _ = Markdown.outlines
          (replaceSpacedHyphens (Markdown.outlines (smartenQuotes false d.plainBody))) := by
        rw [(respelled_smartenQuotes false d.plainBody).outlines_eq]
    _ = Markdown.outlines d.plainMarkdown :=
        (Markdown.outlines_replaceSpacedHyphens _).symm

/-- **Blocks.**  The HTML of an email and its plain text are made of the same
blocks: as many of them, of the same kinds, with as many lines or items. -/
theorem alternatives_share_blocks (links : Html.LinkStyle) :
    (Markdown.blocks (d.markupMarkdown links)).map Markdown.Block.shape
      = (Markdown.blocks d.plainMarkdown).map Markdown.Block.shape :=
  Markdown.shapes_eq (d.outlines_markdown links)

end Draft

end MessageTemplate

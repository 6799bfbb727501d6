/-
# Texts that differ in the spelling of words

An entity and the character it stands for, a curly quote and a straight one,
an anchor and the link in it: two texts may spell some words in two ways and
agree on all else.  The passes over a text keep this relation
(`Respelled.runFrom`), and texts so related have the same outline
(`Respelled.outlines_eq`), so they are divided into the same blocks.
-/
import Mathlib
import MessageTemplate.Proofs.Link
import MessageTemplate.Proofs.Outline
import MessageTemplate.Proofs.Substitution

namespace MessageTemplate

/-! ## The relation -/

/-- Two texts agree but for some words, of which one has one spelling and the
other another, both with a property `P`. -/
inductive Respelled (P : Text → Prop) : Text → Text → Prop
  | nil : Respelled P [] []
  | char (c : Char) {t u : Text} : Respelled P t u → Respelled P (c :: t) (c :: u)
  | word {v w t u : Text} : P v → P w → Respelled P t u → Respelled P (v ++ t) (w ++ u)

namespace Respelled

variable {P : Text → Prop} {t u : Text}

protected theorem refl (t : Text) : Respelled P t t := by
  induction t with
  | nil => exact nil
  | cons c t ih => exact char c ih

theorem append {t' u' : Text} (h : Respelled P t u) (h' : Respelled P t' u') :
    Respelled P (t ++ t') (u ++ u') := by
  induction h with
  | nil => exact h'
  | char c _ ih => exact char c ih
  | word hv hw _ ih =>
    rw [List.append_assoc, List.append_assoc]
    exact word hv hw ih

theorem single {v w : Text} (hv : P v) (hw : P w) : Respelled P v w := by
  simpa using word hv hw nil

theorem compositional : Compositional (Respelled P) :=
  ⟨nil, append⟩

/-- A pass that leaves phrases alone keeps texts respelled whose words are phrases. -/
theorem runFrom {σ : Type} {m : Transducer σ Char Char} {held : σ → Text} {clear : σ}
    (hm : PassesPhrases m held clear) (hP : ∀ w, P w → Phrase w) (h : Respelled P t u) (s : σ) :
    Respelled P (m.runFrom s t) (m.runFrom s u) := by
  induction h generalizing s with
  | nil => exact Respelled.refl _
  | char c _ ih =>
    rw [Transducer.runFrom_cons, Transducer.runFrom_cons]
    exact (Respelled.refl _).append (ih _)
  | @word v w _ _ hv hw _ ih =>
    rw [hm v (hP v hv), hm w (hP w hw), List.append_assoc, List.append_assoc]
    exact (Respelled.refl _).append (word hv hw (ih clear))

/-- Stripping unsupported characters keeps texts respelled whose words are phrases. -/
theorem stripUnsupported (hP : ∀ w, P w → Phrase w) (h : Respelled P t u) :
    Respelled P (stripUnsupported t) (stripUnsupported u) := by
  induction h with
  | nil => exact nil
  | @char c t u _ ih =>
    rw [← List.singleton_append, ← List.singleton_append (l := u), stripUnsupported_append,
      stripUnsupported_append]
    exact (Respelled.refl _).append ih
  | @word v w t u hv hw _ ih =>
    rw [stripUnsupported_append, stripUnsupported_append, stripUnsupported_phrase (hP v hv),
      stripUnsupported_phrase (hP w hw)]
    exact word hv hw ih

/-- **Spacing.**  Texts respelled in phrases are so in normal spacing. -/
theorem normaliseLines (hP : ∀ w, P w → Phrase w) (h : Respelled P t u) :
    Respelled P (normaliseLines t) (normaliseLines u) := by
  have hnewlines : Respelled P (normaliseNewlines t) (normaliseNewlines u) :=
    h.runFrom newlinePass_passesPhrases hP _
  exact (hnewlines.stripUnsupported hP).runFrom isGapPass_linePass.passesPhrases hP _

end Respelled

/-! ## Outlines -/

/-- A text that cuts the outline of a line where it stands: it starts with no
marker and breaks no line. -/
structure IsInline (w : Text) : Prop where
  head : w.head?.any Markdown.isMarker = false
  ne_nil : w ≠ []
  unbroken : '\n' ∉ w

/-- A line is cut before such a text, if it was not before, and then nothing is
written up to its end. -/
theorem IsInline.outlinePass_runFrom {w : Text} (hw : IsInline w) (cut : Bool) (t : Text) :
    Markdown.outlinePass.runFrom cut (w ++ t)
      = (if cut then [] else ['x']) ++ Markdown.outlinePass.runFrom true t := by
  obtain ⟨hhead, hne, hunbroken⟩ := hw
  cases w with
  | nil => exact absurd rfl hne
  | cons c w =>
    rw [List.mem_cons, not_or] at hunbroken
    rw [List.cons_append]
    cases cut with
    | true =>
      rw [Markdown.outlinePass_cut (Ne.symm hunbroken.1),
        Markdown.outlinePass_cut_append hunbroken.2]
      rfl
    | false =>
      rw [Markdown.outlinePass_plain hhead, Markdown.outlinePass_cut_append hunbroken.2]
      rfl

/-- **Outlines.**  Texts respelled within lines have the same outline. -/
theorem Respelled.outlines_eq {t u : Text} (h : Respelled IsInline t u) :
    Markdown.outlines t = Markdown.outlines u := by
  have held : ∀ cut, Markdown.outlinePass.runFrom cut t = Markdown.outlinePass.runFrom cut u := by
    induction h with
    | nil => exact fun _ => rfl
    | char c _ ih =>
      intro cut
      rw [Transducer.runFrom_cons, Transducer.runFrom_cons, ih]
    | word hv hw _ ih =>
      intro cut
      rw [hv.outlinePass_runFrom, hw.outlinePass_runFrom, ih]
  exact held false

/-! ## Quotes -/

/-- A text of one character that is no marker cuts the line where it stands. -/
theorem isInline_singleton {c : Char} (h : Markdown.isMarker c = false) : IsInline [c] := by
  refine ⟨h, List.cons_ne_nil c [], ?_⟩
  rw [List.mem_singleton]
  rintro rfl
  cases h

/-- A quote may be curled within its line; no other character is changed. -/
theorem curlQuote_cases (previous : Option Char) (c : Char) :
    curlQuote previous c = c ∨ (IsInline [curlQuote previous c] ∧ IsInline [c]) := by
  unfold curlQuote
  by_cases hsingle : c = '\''
  · rw [if_pos hsingle, hsingle]
    refine Or.inr ⟨?_, isInline_singleton (by decide)⟩
    split <;> exact isInline_singleton (by decide)
  · rw [if_neg hsingle]
    by_cases hdouble : c = '"'
    · rw [if_pos hdouble, hdouble]
      refine Or.inr ⟨?_, isInline_singleton (by decide)⟩
      split <;> exact isInline_singleton (by decide)
    · rw [if_neg hdouble]
      exact Or.inl rfl

/-- **Quotes.**  Curling quotes respells a text within its lines. -/
theorem respelled_smartenQuotes (skipMarkup : Bool) (t : Text) :
    Respelled IsInline (smartenQuotes skipMarkup t) t := by
  have held : ∀ (l : List (Char × Bool)) (s : QuoteState),
      Respelled IsInline ((quotePass skipMarkup).runFrom s l) (l.map Prod.fst) := by
    intro l
    induction l with
    | nil => exact fun _ => .nil
    | cons a l ih =>
      obtain ⟨c, inEmail⟩ := a
      intro s
      have hone : Respelled IsInline ((quotePass skipMarkup).step s (c, inEmail)).2 [c] := by
        simp only [quotePass]
        split
        · exact Respelled.refl _
        · split
          · exact Respelled.refl _
          · rcases curlQuote_cases s.previous c with hself | ⟨hcurled, hc⟩
            · rw [hself]
              exact Respelled.refl _
            · exact .single hcurled hc
      rw [Transducer.runFrom_cons, List.map_cons, ← List.singleton_append]
      exact hone.append (ih _)
  have hrun := held (markEmails t) (quotePass skipMarkup).start
  rwa [map_fst_markEmails] at hrun

end MessageTemplate

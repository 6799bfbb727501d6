/-
# Phrases

The passes over a text hold back what they may yet drop or replace: blanks,
line breaks, dashes between blanks.  A phrase is a text that gives them no
cause to: words with single spaces between them, none of which starts with a
dash.  Each pass writes what it holds back, then the phrase as it is, and goes
on with nothing held back (`PassesPhrases`).  The tags of placeholders and the
entities are phrases.
-/
import Mathlib
import MessageTemplate.Proofs.Spacing
import MessageTemplate.Text.Typography

namespace MessageTemplate

/-! ## Words and phrases -/

/-- Whether a character is a dash of any length. -/
def isDash (c : Char) : Bool :=
  c == '-' || c == '–' || c == '—'

/-- A word: no character of it spaces a text, and it starts with no dash. -/
structure IsWord (w : Text) : Prop where
  ne_nil : w ≠ []
  unspaced : ∀ c ∈ w, isSpacing c = false
  head : w.head?.any isDash = false

/-- Words with single spaces between them. -/
inductive Phrase : Text → Prop
  | word {w : Text} : IsWord w → Phrase w
  | cons {w t : Text} : IsWord w → Phrase t → Phrase (w ++ ' ' :: t)

/-- Whether a text is a word can be read off it. -/
instance (w : Text) : Decidable (IsWord w) :=
  decidable_of_iff (w ≠ [] ∧ w.any isSpacing = false ∧ w.head?.any isDash = false)
    ⟨fun h => ⟨h.1, by simpa using h.2.1, h.2.2⟩,
      fun h => ⟨h.ne_nil, by simpa using h.unspaced, h.head⟩⟩

/-- No unsupported character stands in a phrase. -/
theorem Phrase.isUnsupported_of_mem {w : Text} (h : Phrase w) :
    ∀ c ∈ w, isUnsupported c = false := by
  induction h with
  | word hw => exact fun c hc => (isSpacing_eq_false_iff.1 (hw.unspaced c hc)).2
  | @cons w t hw _ ih =>
    intro c hc
    rcases List.mem_append.1 hc with hc | hc
    · exact (isSpacing_eq_false_iff.1 (hw.unspaced c hc)).2
    · rcases List.mem_cons.1 hc with rfl | hc
      · decide
      · exact ih c hc

/-- No line break stands in a phrase. -/
theorem Phrase.newline_not_mem {w : Text} (h : Phrase w) : '\n' ∉ w := by
  induction h with
  | word hw => exact fun hmem => absurd (hw.unspaced _ hmem) (by decide)
  | @cons w t hw _ ih =>
    rw [List.mem_append, List.mem_cons, not_or, not_or]
    exact ⟨fun hmem => absurd (hw.unspaced _ hmem) (by decide), by decide, ih⟩

/-! ## Passes that leave phrases alone -/

variable {σ : Type}

/-- A pass writes a phrase as it is, behind what it held back in front of it. -/
def PassesPhrases (m : Transducer σ Char Char) (held : σ → Text) (clear : σ) : Prop :=
  ∀ w, Phrase w → ∀ s t, m.runFrom s (w ++ t) = held s ++ w ++ m.runFrom clear t

/-- A pass leaves phrases alone if it writes the first character of a word
behind what it held back and each further one as it is, and the space behind a
word is written or held back. -/
theorem PassesPhrases.of_steps {m : Transducer σ Char Char} {held : σ → Text} {clear : σ}
    (hfirst : ∀ s c, isSpacing c = false → isDash c = false → m.step s c = (clear, held s ++ [c]))
    (hnext : ∀ c, isSpacing c = false → m.step clear c = (clear, [c]))
    (hspace : (m.step clear ' ').2 ++ held (m.step clear ' ').1 = [' ']) :
    PassesPhrases m held clear := by
  have hrest : ∀ w : Text, (∀ c ∈ w, isSpacing c = false) →
      ∀ t, m.runFrom clear (w ++ t) = w ++ m.runFrom clear t := by
    intro w hw t
    induction w with
    | nil => rfl
    | cons c w ih =>
      rw [List.cons_append, Transducer.runFrom_cons, hnext c (hw c List.mem_cons_self),
        ih fun d hd => hw d (List.mem_cons_of_mem c hd)]
      rfl
  have hword : ∀ w, IsWord w → ∀ s t, m.runFrom s (w ++ t) = held s ++ w ++ m.runFrom clear t := by
    rintro w ⟨hne, hunspaced, hhead⟩ s t
    cases w with
    | nil => exact absurd rfl hne
    | cons c w =>
      have hc : isDash c = false := by simpa using hhead
      rw [List.cons_append, Transducer.runFrom_cons, hfirst s c (hunspaced c List.mem_cons_self) hc,
        hrest w fun d hd => hunspaced d (List.mem_cons_of_mem c hd)]
      simp
  intro w hw
  induction hw with
  | word hw => exact hword _ hw
  | @cons w t hw _ ih =>
    intro s u
    rw [List.append_assoc, hword w hw, List.cons_append, Transducer.runFrom_cons, ih,
      ← List.append_assoc (m.step clear ' ').2, ← List.append_assoc (m.step clear ' ').2, hspace]
    simp

/-- Line breaks are normalised around phrases. -/
theorem newlinePass_passesPhrases : PassesPhrases newlinePass (fun _ => []) false := by
  have hstep : ∀ s c, isSpacing c = false → newlinePass.step s c = (false, [c]) := by
    intro s c hc
    obtain ⟨hn, hr⟩ := ne_newline_of_isSpacing hc
    simp [newlinePass, hn, hr]
  exact .of_steps (fun s c hc _ => hstep s c hc) (fun c hc => hstep false c hc) rfl

/-- Gaps are written around phrases, and a space inside one is held back. -/
theorem IsGapPass.passesPhrases {m : Transducer Gap Char Char} (hm : IsGapPass m) :
    PassesPhrases m Gap.text .none := by
  refine .of_steps (fun gap c hc _ => hm.word gap c hc) (fun c hc => hm.word .none c hc) ?_
  rw [hm.space]
  rfl

/-- Nothing is stripped from a phrase. -/
theorem stripUnsupported_phrase {w : Text} (hw : Phrase w) : stripUnsupported w = w :=
  stripUnsupported_of_forall hw.isUnsupported_of_mem

/-! ## Quotes -/

/-- Marking email tokens keeps every character. -/
theorem map_fst_markEmails (t : Text) : (markEmails t).map Prod.fst = t := by
  have htoken : ∀ token : Text, (markToken token).map Prod.fst = token := by
    intro token
    simp [markToken, Function.comp_def]
  have held : ∀ token : Text,
      (emailPass.runFrom token t).map Prod.fst = token.reverse ++ t := by
    induction t with
    | nil => intro token; simp [emailPass, htoken]
    | cons c t ih =>
      intro token
      rw [Transducer.runFrom_cons, List.map_append, ih]
      by_cases hc : endsToken c = true
      · simp [emailPass, hc, htoken]
      · simp [emailPass, hc]
  exact held []

/-! ## Dashes -/

/-- What the dash pass has read and not yet written, as it was read; the
blanks behind a spaced dash are not written at all. -/
def DashState.held : DashState → Text
  | .text => []
  | .blanks before => before.reverse
  | .dash before hyphens => before.reverse ++ hyphens
  | .spaced => []

/-- A character that is no blank and no dash is written behind what was held back. -/
theorem dashPass_step_of_plain {c : Char} (hblank : isSpaceOrTab c = false)
    (hdash : isDash c = false) (s : DashState) :
    dashPass.step s c = (.text, s.held ++ [c]) := by
  simp only [isDash, Bool.or_eq_false_iff, beq_eq_false_iff_ne] at hdash
  cases s <;> simp [dashPass, DashState.held, hblank, hdash]

/-- At the end of a text the dash pass writes what it held back. -/
theorem dashPass_finish (s : DashState) : dashPass.finish s = s.held := by
  cases s <;> rfl

/-- What the dash pass writes and holds back behind one more character is what
it held before, the character, and the space and the dash of a spaced dash. -/
theorem mem_dashPass_step {s : DashState} {c d : Char}
    (h : d ∈ (dashPass.step s c).2 ++ (dashPass.step s c).1.held) :
    d ∈ s.held ∨ d = c ∨ d = ' ' ∨ d = '–' := by
  simp only [dashPass] at h
  cases s with
  | text | spaced =>
    dsimp only at h
    split at h <;> simp_all [DashState.held]
  | blanks before =>
    dsimp only at h
    split at h
    · simp only [DashState.held, List.mem_append, List.mem_reverse, List.mem_cons] at h ⊢
      tauto
    · split at h <;>
        · simp only [DashState.held, List.mem_append, List.mem_reverse, List.mem_cons] at h ⊢
          tauto
  | dash before hyphens =>
    dsimp only at h
    split at h
    · simp only [DashState.held, List.mem_append, List.mem_reverse, List.mem_cons] at h ⊢
      tauto
    · split at h <;>
        · simp only [DashState.held, List.mem_append, List.mem_reverse, List.mem_cons] at h ⊢
          tauto

/-- A character that is not blank is neither a space nor a tab. -/
theorem isSpaceOrTab_of_isBlank {c : Char} (h : isBlank c = false) : isSpaceOrTab c = false := by
  rw [isSpaceOrTab, Bool.or_eq_false_iff, beq_eq_false_iff_ne, beq_eq_false_iff_ne]
  constructor
  · rintro rfl
    exact absurd h (by decide)
  · rintro rfl
    exact absurd h (by decide)

/-- Dashes are replaced around phrases: a dash inside a word has no blank in
front of it, so it is written at once. -/
theorem dashPass_passesPhrases : PassesPhrases dashPass DashState.held .text := by
  have hblank : ∀ c, isSpacing c = false → isSpaceOrTab c = false :=
    fun c hc => isSpaceOrTab_of_isBlank (isSpacing_eq_false_iff.1 hc).1
  refine .of_steps (fun s c hc hdash => ?_) (fun c hc => ?_) rfl
  · exact dashPass_step_of_plain (hblank c hc) hdash s
  · simp [dashPass, hblank c hc]

end MessageTemplate

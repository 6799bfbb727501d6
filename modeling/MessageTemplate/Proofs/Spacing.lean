/-
# The normal spacing of a text

`normaliseLines` is three passes in a row, and `normaliseWhitespace` is one.
The passes over words and lines hold back a gap and write it in front of the
next character (`IsGapPass`).  These facts carry the rest of the theory:

* `staysInLines_of_mem_normaliseLines` : of the characters that space a text
  only the space and the line feed are left;
* `normaliseLines_flatMap`, `normaliseWhitespace_flatMap` : a map of characters
  that leaves the spacing alone and turns every other character into a word may
  be applied before or after.
-/
import Mathlib
import MessageTemplate.Text.Spacing

namespace MessageTemplate

/-! ## Characters that space a text -/

/-- Whether a character belongs to the spacing of a text: it is blank, or it
is dropped as unsupported. -/
def isSpacing (c : Char) : Bool :=
  isBlank c || isUnsupported c

/-- Whether a character may stand in a text with normal spacing. -/
def staysInLines (c : Char) : Bool :=
  c == ' ' || c == '\n' || !isSpacing c

/-- A character outside the spacing of a text is neither blank nor unsupported. -/
theorem isSpacing_eq_false_iff {c : Char} :
    isSpacing c = false ↔ isBlank c = false ∧ isUnsupported c = false := by
  rw [isSpacing, Bool.or_eq_false_iff]

/-- Line breaks belong to the spacing, so no other character is one. -/
theorem ne_newline_of_isSpacing {c : Char} (h : isSpacing c = false) : c ≠ '\n' ∧ c ≠ '\r' := by
  constructor
  · rintro rfl
    exact absurd h (by decide)
  · rintro rfl
    exact absurd h (by decide)

/-! ## What a pass writes -/

/-- What every step and the end of a pass keep to, the whole run keeps to. -/
theorem Transducer.forall_mem_runFrom {σ α β : Type} {m : Transducer σ α β} {P : β → Prop}
    (hfinish : ∀ s, ∀ b ∈ m.finish s, P b) {t : List α}
    (hstep : ∀ s, ∀ a ∈ t, ∀ b ∈ (m.step s a).2, P b) (s : σ) :
    ∀ b ∈ m.runFrom s t, P b := by
  induction t generalizing s with
  | nil =>
    intro b hb
    rw [Transducer.runFrom_nil] at hb
    exact hfinish s b hb
  | cons a rest ih =>
    intro b hb
    rw [Transducer.runFrom_cons, List.mem_append] at hb
    rcases hb with hb | hb
    · exact hstep s a List.mem_cons_self b hb
    · exact ih (fun s' a' ha' => hstep s' a' (List.mem_cons_of_mem _ ha')) _ b hb

/-- A gap is written with spaces and line feeds. -/
theorem Gap.mem_text {gap : Gap} {c : Char} (h : c ∈ gap.text) : c = ' ' ∨ c = '\n' := by
  cases gap <;> simp_all [Gap.text]

/-- No unsupported character is left when they are stripped. -/
theorem isUnsupported_of_mem_strip {t : Text} {c : Char} (h : c ∈ stripUnsupported t) :
    isUnsupported c = false := by
  rw [stripUnsupported, List.mem_filter] at h
  simpa using h.2

/-- A text with normal spacing holds no blank but the space and the line feed,
and nothing unsupported. -/
theorem staysInLines_of_mem_normaliseLines {t : Text} :
    ∀ c ∈ normaliseLines t, staysInLines c = true := by
  refine Transducer.forall_mem_runFrom (fun _ b hb => absurd hb List.not_mem_nil) ?_ _
  intro gap c hc b hb
  have hsupported : isUnsupported c = false := isUnsupported_of_mem_strip hc
  simp only [linePass] at hb
  split at hb
  · simp at hb
  · split at hb
    · simp at hb
    · rename_i hblank
      rw [List.mem_append, List.mem_singleton] at hb
      rcases hb with hb | rfl
      · rcases Gap.mem_text hb with rfl | rfl <;> rfl
      · simp [staysInLines, isSpacing, hblank, hsupported]

/-! ## Passes that write gaps -/

/-- A pass whose state is a gap: for each character it writes nothing, as for a
space, or the gap and the character, as for one outside the spacing. -/
structure IsGapPass (m : Transducer Gap Char Char) : Prop where
  step : ∀ gap c, (m.step gap c).2 = [] ∨ (m.step gap c).2 = gap.text ++ [c]
  space : ∀ gap, m.step gap ' ' = (gap.addBlank, [])
  word : ∀ gap c, isSpacing c = false → m.step gap c = (.none, gap.text ++ [c])
  finish : ∀ gap, m.finish gap = []

theorem isGapPass_linePass : IsGapPass linePass := by
  constructor
  · intro gap c
    simp only [linePass]
    split
    · exact Or.inl rfl
    · split
      · exact Or.inl rfl
      · exact Or.inr rfl
  · intro gap
    rfl
  · intro gap c hc
    simp [linePass, (ne_newline_of_isSpacing hc).1, (isSpacing_eq_false_iff.1 hc).1]
  · intro _
    rfl

theorem isGapPass_wordPass : IsGapPass wordPass := by
  constructor
  · intro gap c
    simp only [wordPass]
    split
    · exact Or.inl rfl
    · split
      · exact Or.inl rfl
      · exact Or.inr rfl
  · intro gap
    rfl
  · intro gap c hc
    obtain ⟨hblank, hsupported⟩ := isSpacing_eq_false_iff.1 hc
    simp [wordPass, hblank, hsupported]
  · intro _
    rfl

/-- A character outside the spacing is written behind its gap, and no gap is left. -/
theorem IsGapPass.runFrom_cons {m : Transducer Gap Char Char} (hm : IsGapPass m) {c : Char}
    (hc : isSpacing c = false) (gap : Gap) (t : Text) :
    m.runFrom gap (c :: t) = gap.text ++ c :: m.runFrom .none t := by
  rw [Transducer.runFrom_cons, hm.word gap c hc]
  simp

/-- A word is written behind the gap in front of it, and no gap is left. -/
theorem IsGapPass.runFrom_word {m : Transducer Gap Char Char} (hm : IsGapPass m) {w : Text}
    (hne : w ≠ []) (hw : ∀ d ∈ w, isSpacing d = false) (gap : Gap) (t : Text) :
    m.runFrom gap (w ++ t) = gap.text ++ w ++ m.runFrom .none t := by
  induction w generalizing gap with
  | nil => exact absurd rfl hne
  | cons d w ih =>
    rw [List.cons_append, hm.runFrom_cons (hw d List.mem_cons_self)]
    by_cases hnil : w = []
    · rw [hnil]
      simp
    · rw [ih hnil fun d' hd' => hw d' (List.mem_cons_of_mem _ hd')]
      simp [Gap.text]

/-! ## Maps of characters that leave the spacing alone -/

/-- **Maps and passes.**  A map of characters to words may be applied before or
after a pass if every step goes on alike and writes what is mapped. -/
theorem Transducer.runFrom_flatMap {σ : Type} {m : Transducer σ Char Char} {g : Char → Text}
    (ok : σ → Prop) (hfinish : ∀ s, ok s → (m.finish s).flatMap g = m.finish s)
    (hstep : ∀ s, ok s → ∀ c,
      (∀ t, m.runFrom s (g c ++ t) = (m.step s c).2.flatMap g ++ m.runFrom (m.step s c).1 t)
        ∧ ok (m.step s c).1)
    {s : σ} (hs : ok s) (t : Text) : m.runFrom s (t.flatMap g) = (m.runFrom s t).flatMap g := by
  induction t generalizing s with
  | nil =>
    rw [List.flatMap_nil, Transducer.runFrom_nil, hfinish s hs]
  | cons c t ih =>
    obtain ⟨hrun, hnext⟩ := hstep s hs c
    rw [List.flatMap_cons, hrun, ih hnext, Transducer.runFrom_cons, List.flatMap_append]

/-- A map of characters to words that keeps each character of the spacing and
writes every other one as a word without any. -/
structure KeepsSpacing (g : Char → Text) : Prop where
  spacing : ∀ c, isSpacing c = true → g c = [c]
  word : ∀ c, isSpacing c = false → g c ≠ [] ∧ ∀ d ∈ g c, isSpacing d = false

/-- Gaps are spacing, so the map leaves them as they are written. -/
theorem KeepsSpacing.gap {g : Char → Text} (hg : KeepsSpacing g) (gap : Gap) :
    gap.text.flatMap g = gap.text := by
  have hspace : g ' ' = [' '] := hg.spacing ' ' (by decide)
  have hnewline : g '\n' = ['\n'] := hg.spacing '\n' (by decide)
  cases gap <;> simp [Gap.text, hspace, hnewline]

/-- A word passes the normalisation of line breaks unchanged. -/
theorem newlinePass_runFrom_word {w : Text} (hne : w ≠ []) (hw : ∀ d ∈ w, isSpacing d = false)
    (afterReturn : Bool) (t : Text) :
    newlinePass.runFrom afterReturn (w ++ t) = w ++ newlinePass.runFrom false t := by
  induction w generalizing afterReturn with
  | nil => exact absurd rfl hne
  | cons d w ih =>
    obtain ⟨hn, hr⟩ := ne_newline_of_isSpacing (hw d List.mem_cons_self)
    rw [List.cons_append, Transducer.runFrom_cons]
    have hstep : newlinePass.step afterReturn d = (false, [d]) := by
      simp [newlinePass, hn, hr]
    rw [hstep]
    by_cases hnil : w = []
    · rw [hnil]
      rfl
    · rw [ih hnil fun d' hd' => hw d' (List.mem_cons_of_mem _ hd')]
      rfl

/-- The normalisation of line breaks commutes with a map that keeps the spacing. -/
theorem normaliseNewlines_flatMap {g : Char → Text} (hg : KeepsSpacing g) (t : Text) :
    normaliseNewlines (t.flatMap g) = (normaliseNewlines t).flatMap g := by
  refine Transducer.runFrom_flatMap (fun _ => True) (fun _ _ => rfl) ?_ trivial t
  intro afterReturn _ c
  refine ⟨fun t => ?_, trivial⟩
  by_cases hc : isSpacing c = true
  · -- spacing: the same step is taken on both sides
    have hnewline : g '\n' = ['\n'] := hg.spacing '\n' (by decide)
    rw [hg.spacing c hc, List.singleton_append, Transducer.runFrom_cons]
    congr 1
    simp only [newlinePass]
    split
    · simp [hnewline]
    · split <;> simp [hg.spacing c hc]
  · -- any other character: its whole word passes like the character itself
    have hc' : isSpacing c = false := Bool.eq_false_iff.2 hc
    obtain ⟨hne, hword⟩ := hg.word c hc'
    obtain ⟨hn, hr⟩ := ne_newline_of_isSpacing hc'
    have hstep : newlinePass.step afterReturn c = (false, [c]) := by
      simp [newlinePass, hn, hr]
    rw [newlinePass_runFrom_word hne hword, hstep]
    simp

/-- Stripping goes character by character. -/
theorem stripUnsupported_append (t u : Text) :
    stripUnsupported (t ++ u) = stripUnsupported t ++ stripUnsupported u :=
  List.filter_append ..

/-- Nothing is stripped from a text without unsupported characters. -/
theorem stripUnsupported_of_forall {t : Text} (h : ∀ c ∈ t, isUnsupported c = false) :
    stripUnsupported t = t := by
  rw [stripUnsupported, List.filter_eq_self]
  intro c hc
  rw [h c hc]
  rfl

/-- Nothing is stripped from a word. -/
theorem stripUnsupported_word {w : Text} (hw : ∀ d ∈ w, isSpacing d = false) :
    stripUnsupported w = w :=
  stripUnsupported_of_forall fun d hd => (isSpacing_eq_false_iff.1 (hw d hd)).2

/-- Stripping unsupported characters commutes with a map that keeps the spacing. -/
theorem stripUnsupported_flatMap {g : Char → Text} (hg : KeepsSpacing g) (t : Text) :
    stripUnsupported (t.flatMap g) = (stripUnsupported t).flatMap g := by
  induction t with
  | nil => rfl
  | cons c rest ih =>
    have hone : stripUnsupported (g c) = (stripUnsupported [c]).flatMap g := by
      by_cases hc : isSpacing c = true
      · rw [hg.spacing c hc, stripUnsupported, List.filter_singleton]
        cases isUnsupported c <;> simp [hg.spacing c hc]
      · have hc' : isSpacing c = false := Bool.eq_false_iff.2 hc
        rw [stripUnsupported_word (hg.word c hc').2, stripUnsupported_word (by simpa using hc'),
          List.flatMap_singleton]
    rw [← List.singleton_append (x := c), stripUnsupported_append, List.flatMap_append,
      List.flatMap_append, List.flatMap_singleton, stripUnsupported_append, ih, hone]

/-- A pass that writes gaps commutes with a map that keeps the spacing. -/
theorem IsGapPass.runFrom_flatMap {m : Transducer Gap Char Char} (hm : IsGapPass m)
    {g : Char → Text} (hg : KeepsSpacing g) (gap : Gap) (t : Text) :
    m.runFrom gap (t.flatMap g) = (m.runFrom gap t).flatMap g := by
  refine Transducer.runFrom_flatMap (fun _ => True) (fun gap _ => ?_) ?_ trivial t
  · rw [hm.finish]
    rfl
  · intro gap _ c
    refine ⟨fun t => ?_, trivial⟩
    by_cases hc : isSpacing c = true
    · rw [hg.spacing c hc, List.singleton_append, Transducer.runFrom_cons]
      congr 1
      rcases hm.step gap c with hnone | hsome
      · rw [hnone]
        rfl
      · rw [hsome, List.flatMap_append, hg.gap, List.flatMap_singleton, hg.spacing c hc]
    · have hc' : isSpacing c = false := Bool.eq_false_iff.2 hc
      obtain ⟨hne, hword⟩ := hg.word c hc'
      rw [hm.runFrom_word hne hword, hm.word gap c hc', List.flatMap_append, hg.gap,
        List.flatMap_singleton]

/-- **Spacing and spelling commute.**  A map of characters that keeps the
spacing may be applied before or after the spacing is normalised. -/
theorem normaliseLines_flatMap {g : Char → Text} (hg : KeepsSpacing g) (t : Text) :
    normaliseLines (t.flatMap g) = (normaliseLines t).flatMap g := by
  unfold normaliseLines
  rw [normaliseNewlines_flatMap hg, stripUnsupported_flatMap hg]
  exact isGapPass_linePass.runFrom_flatMap hg _ _

/-- A map of characters that keeps the spacing may be applied before or after
a text is put on one line. -/
theorem normaliseWhitespace_flatMap {g : Char → Text} (hg : KeepsSpacing g) (t : Text) :
    normaliseWhitespace (t.flatMap g) = (normaliseWhitespace t).flatMap g :=
  isGapPass_wordPass.runFrom_flatMap hg _ _

end MessageTemplate

/-
# Texts in normal spacing

A text in normal spacing is empty, or is a row of characters outside the
spacing with a gap between any two of them (`Spaced`).  From this form follow
the facts about the two normalisations that the rest of the theory uses:

* `normaliseLines_normaliseLines` : normalising the lines of a text a second
  time changes nothing;
* `normaliseLines_eq_nil_iff` : nothing is left of a text exactly when all of
  it is spacing;
* `normaliseWhitespace_normaliseLines` : a text on one line is the same whether
  its lines were normalised before or not.

Which texts have this form can be seen from the blanks in them and what stands
beside them (`IsNormal`), and these are the texts that normalising leaves as
they are (`normaliseLines_eq_self_iff_isNormal`).
-/
import Mathlib
import MessageTemplate.Proofs.Spacing

namespace MessageTemplate

/-! ## The characters outside the spacing -/

/-- The characters of a text that do not belong to its spacing. -/
def unspaced (t : Text) : Text :=
  t.filter fun c => !isSpacing c

@[simp] theorem unspaced_nil : unspaced [] = [] := rfl

@[simp] theorem unspaced_append (t u : Text) : unspaced (t ++ u) = unspaced t ++ unspaced u :=
  List.filter_append ..

@[simp] theorem unspaced_singleton_of_isSpacing {c : Char} (h : isSpacing c = true) :
    unspaced [c] = [] := by
  simp [unspaced, h]

/-- Only spacing has no character outside the spacing. -/
theorem unspaced_eq_nil_iff {t : Text} : unspaced t = [] ↔ ∀ c ∈ t, isSpacing c = true := by
  unfold unspaced
  rw [List.filter_eq_nil_iff]
  simp

/-- A gap is spacing. -/
@[simp] theorem unspaced_gap (gap : Gap) : unspaced gap.text = [] := by
  cases gap <;> decide

/-- A pass keeps the characters outside the spacing if each of its steps does. -/
theorem unspaced_runFrom {σ : Type} {m : Transducer σ Char Char}
    (hstep : ∀ s c, unspaced (m.step s c).2 = unspaced [c])
    (hfinish : ∀ s, unspaced (m.finish s) = []) (s : σ) (t : Text) :
    unspaced (m.runFrom s t) = unspaced t := by
  induction t generalizing s with
  | nil => rw [Transducer.runFrom_nil, hfinish, unspaced_nil]
  | cons c t ih =>
    rw [Transducer.runFrom_cons, unspaced_append, hstep, ih, ← unspaced_append,
      List.singleton_append]

theorem unspaced_newlinePass (afterReturn : Bool) (t : Text) :
    unspaced (newlinePass.runFrom afterReturn t) = unspaced t := by
  apply unspaced_runFrom
  · intro afterReturn c
    simp only [newlinePass]
    split
    · rename_i hc
      rw [hc]
      decide
    · split
      · rename_i hc
        simp only [Bool.and_eq_true, beq_iff_eq] at hc
        rw [hc.2]
        decide
      · rfl
  · intro _
    rfl

/-- A pass that writes gaps keeps the characters outside the spacing. -/
theorem IsGapPass.unspaced_runFrom {m : Transducer Gap Char Char} (hm : IsGapPass m) (gap : Gap)
    (t : Text) : unspaced (m.runFrom gap t) = unspaced t := by
  apply MessageTemplate.unspaced_runFrom
  · intro gap c
    rcases hm.step gap c with hnone | hsome
    · -- only spacing goes unwritten
      have hc : isSpacing c = true := by
        by_contra hc
        rw [hm.word gap c (Bool.eq_false_iff.2 hc)] at hnone
        simp at hnone
      rw [hnone, unspaced_singleton_of_isSpacing hc, unspaced_nil]
    · rw [hsome, unspaced_append, unspaced_gap, List.nil_append]
  · intro gap
    rw [hm.finish, unspaced_nil]

theorem unspaced_stripUnsupported (t : Text) : unspaced (stripUnsupported t) = unspaced t := by
  unfold unspaced stripUnsupported
  rw [List.filter_filter]
  apply List.filter_congr
  intro c _
  cases hunsupported : isUnsupported c <;> simp [isSpacing, hunsupported]

/-- **Lines.**  Normalising the lines of a text keeps every character outside
its spacing. -/
theorem unspaced_normaliseLines (t : Text) : unspaced (normaliseLines t) = unspaced t := by
  calc unspaced (normaliseLines t)
      = unspaced (stripUnsupported (normaliseNewlines t)) := isGapPass_linePass.unspaced_runFrom _ _
    _ = unspaced (normaliseNewlines t) := unspaced_stripUnsupported _
    _ = unspaced t := unspaced_newlinePass _ _

/-- **Words.**  Putting a text on one line keeps every character outside its spacing. -/
theorem unspaced_normaliseWhitespace (t : Text) :
    unspaced (normaliseWhitespace t) = unspaced t :=
  isGapPass_wordPass.unspaced_runFrom _ _

/-! ## Characters with gaps between them -/

/-- A row of characters outside the spacing, with a gap between any two. -/
inductive Spaced : Text → Prop
  | single {c : Char} : isSpacing c = false → Spaced [c]
  | cons {c : Char} {t : Text} (gap : Gap) :
    isSpacing c = false → Spaced t → Spaced (c :: (gap.text ++ t))

/-- Such a row holds no blank but the space and the line feed, and nothing unsupported. -/
theorem Spaced.staysInLines {t : Text} (h : Spaced t) : ∀ c ∈ t, staysInLines c = true := by
  induction h with
  | single hc => simp [MessageTemplate.staysInLines, hc]
  | cons gap hc _ ih =>
    intro d hd
    rcases List.mem_cons.1 hd with rfl | hd
    · simp [MessageTemplate.staysInLines, hc]
    · rcases List.mem_append.1 hd with hd | hd
      · rcases Gap.mem_text hd with rfl | rfl <;> rfl
      · exact ih d hd

/-- Nothing unsupported stands in such a row. -/
theorem Spaced.isUnsupported_of_mem {t : Text} (h : Spaced t) :
    ∀ c ∈ t, isUnsupported c = false := by
  intro c hc
  have hstays := h.staysInLines c hc
  simp only [MessageTemplate.staysInLines, Bool.or_eq_true, beq_iff_eq] at hstays
  rcases hstays with (rfl | rfl) | hc
  · decide
  · decide
  · exact (isSpacing_eq_false_iff.1 (by simpa using hc)).2

/-- Such a row starts with a character outside the spacing. -/
theorem Spaced.exists_first {t : Text} (h : Spaced t) :
    ∃ c rest, t = c :: rest ∧ isSpacing c = false := by
  cases h with
  | single hc => exact ⟨_, [], rfl, hc⟩
  | cons gap hc _ => exact ⟨_, _, rfl, hc⟩

/-- Such a row ends with a character outside the spacing. -/
theorem Spaced.exists_last {t : Text} (h : Spaced t) :
    ∃ front c, t = front ++ [c] ∧ isSpacing c = false := by
  induction h with
  | @single c hc => exact ⟨[], c, rfl, hc⟩
  | @cons c t gap _ _ ih =>
    obtain ⟨front, d, rfl, hd⟩ := ih
    exact ⟨c :: (gap.text ++ front), d, by simp, hd⟩

/-- Spaces and line breaks that are part of no gap stand nowhere in such a row. -/
theorem Spaced.not_infix {w t : Text} (h : Spaced t) (hw : ∀ c ∈ w, c = ' ' ∨ c = '\n')
    (hgap : ∀ gap : Gap, ¬ w <:+: gap.text) : ¬ w <:+: t := by
  have hspacing : ∀ c ∈ w, isSpacing c = true := by
    intro c hc
    rcases hw c hc with rfl | rfl <;> decide
  obtain ⟨s, w', rfl⟩ : ∃ s w', w = s :: w' :=
    List.exists_cons_of_ne_nil fun hnil => hgap .none (by rw [hnil]; exact List.nil_infix)
  have hfirst : ∀ {c : Char} {rest : Text}, isSpacing c = false → ¬ s :: w' <+: c :: rest := by
    intro c rest hc hfront
    rw [← (List.cons_prefix_cons.1 hfront).1, hspacing s List.mem_cons_self] at hc
    cases hc
  induction h with
  | single hc =>
    rw [List.infix_cons_iff, List.infix_nil]
    exact not_or.2 ⟨hfirst hc, List.cons_ne_nil s w'⟩
  | @cons c t gap hc ht ih =>
    rw [List.infix_cons_iff, List.infix_append_iff]
    rintro (hstart | hinfix | hinfix | ⟨front, back, hparts, hfront, hback⟩)
    · exact hfirst hc hstart
    · exact hgap gap hinfix
    · exact ih hinfix
    · -- what reaches over the end of the gap would hold a character outside the spacing
      obtain ⟨d, rest, rfl, hd⟩ := ht.exists_first
      cases back with
      | nil =>
        rw [List.append_nil] at hparts
        exact hgap gap (hparts ▸ hfront.isInfix)
      | cons b back =>
        have hb : isSpacing b = true := hspacing b (by rw [hparts]; simp)
        rw [(List.cons_prefix_cons.1 hback).1, hd] at hb
        cases hb

/-- Such a row is not all spacing. -/
theorem Spaced.unspaced_ne_nil {t : Text} (h : Spaced t) : unspaced t ≠ [] := by
  rw [Ne, unspaced_eq_nil_iff]
  intro hspacing
  cases h with
  | single hc | cons _ hc _ =>
    rw [hspacing _ List.mem_cons_self] at hc
    cases hc

/-- A gap after one more blank, which may be a line break. -/
def Gap.grow (gap : Gap) (c : Char) : Gap :=
  if c = '\n' then gap.addNewline else gap.addBlank

/-- The start of a text stays the start however many blanks follow it. -/
theorem Gap.grow_start (c : Char) : Gap.start.grow c = .start := by
  unfold Gap.grow
  split <;> rfl

/-- A blank makes a gap grow, and nothing is written for it. -/
theorem linePass_runFrom_blank {c : Char} (hblank : isBlank c = true) (gap : Gap) (t : Text) :
    linePass.runFrom gap (c :: t) = linePass.runFrom (gap.grow c) t := by
  have hstep : linePass.step gap c = (gap.grow c, []) := by
    by_cases hc : c = '\n'
    · simp [linePass, Gap.grow, hc]
    · simp [linePass, Gap.grow, hc, hblank]
  rw [Transducer.runFrom_cons, hstep, List.nil_append]

/-- What the spacing of lines writes for a text is nothing, or a gap and a row
of characters; nothing stands in front of the first character of a text. -/
theorem linePass_runFrom_cases {t : Text} (ht : ∀ c ∈ t, isUnsupported c = false) (gap : Gap) :
    linePass.runFrom gap t = []
      ∨ ∃ (gap' : Gap) (u : Text), Spaced u ∧ linePass.runFrom gap t = gap'.text ++ u
        ∧ (gap = .start → gap' = .start) := by
  induction t generalizing gap with
  | nil => exact Or.inl rfl
  | cons c t ih =>
    have hrest := ih fun d hd => ht d (List.mem_cons_of_mem c hd)
    by_cases hblank : isBlank c = true
    · rw [linePass_runFrom_blank hblank]
      rcases hrest (gap.grow c) with hnil | ⟨gap', u, hu, hrun, hstart⟩
      · exact Or.inl hnil
      · refine Or.inr ⟨gap', u, hu, hrun, ?_⟩
        rintro rfl
        exact hstart (Gap.grow_start c)
    · have hc : isSpacing c = false :=
        isSpacing_eq_false_iff.2 ⟨Bool.eq_false_iff.2 hblank, ht c List.mem_cons_self⟩
      rw [isGapPass_linePass.runFrom_cons hc]
      right
      rcases hrest .none with hnil | ⟨gap', u, hu, hrun, -⟩
      · rw [hnil]
        exact ⟨gap, [c], .single hc, rfl, id⟩
      · rw [hrun]
        exact ⟨gap, _, .cons gap' hc hu, rfl, id⟩

/-- **Normal spacing.**  A text with normalised lines is empty or a row of
characters with gaps between them. -/
theorem spaced_normaliseLines (t : Text) : normaliseLines t = [] ∨ Spaced (normaliseLines t) := by
  have hsupported : ∀ c ∈ stripUnsupported (normaliseNewlines t), isUnsupported c = false :=
    fun c hc => isUnsupported_of_mem_strip hc
  rcases linePass_runFrom_cases hsupported .start with hnil | ⟨gap, u, hu, hrun, hstart⟩
  · exact Or.inl hnil
  · right
    have hlines : normaliseLines t = u := by
      rw [hstart rfl] at hrun
      exact hrun
    rw [hlines]
    exact hu

/-- **Emptiness.**  Nothing is left of a text exactly when all of it is spacing. -/
theorem normaliseLines_eq_nil_iff {t : Text} :
    normaliseLines t = [] ↔ ∀ c ∈ t, isSpacing c = true := by
  rw [← unspaced_eq_nil_iff, ← unspaced_normaliseLines]
  constructor
  · intro h
    rw [h, unspaced_nil]
  · intro h
    rcases spaced_normaliseLines t with hnil | hspaced
    · exact hnil
    · exact absurd h hspaced.unspaced_ne_nil

/-! ## Normalising twice -/

/-- Line breaks are kept in a text without carriage returns. -/
theorem normaliseNewlines_of_not_mem {t : Text} (h : '\r' ∉ t) : normaliseNewlines t = t := by
  have held : newlinePass.runFrom false t = t := by
    induction t with
    | nil => rfl
    | cons c t ih =>
      rw [List.mem_cons, not_or] at h
      have hstep : newlinePass.step false c = (false, [c]) := by
        simp [newlinePass, Ne.symm h.1]
      rw [Transducer.runFrom_cons, hstep, ih h.2, List.singleton_append]
  exact held

/-- The spacing of lines writes a gap that it reads, once a character follows. -/
theorem linePass_runFrom_gap (gap : Gap) {t : Text} (h : Spaced t) :
    linePass.runFrom .none (gap.text ++ t) = gap.text ++ linePass.runFrom .none t := by
  obtain ⟨c, rest, rfl, hc⟩ := h.exists_first
  have hread : ∃ gap', linePass.runFrom .none (gap.text ++ c :: rest)
      = linePass.runFrom gap' (c :: rest) ∧ gap'.text = gap.text := by
    cases gap with
    | start | none => exact ⟨.none, rfl, rfl⟩
    | space => exact ⟨.space, by simp [Gap.text, linePass, Gap.addBlank, isBlank], rfl⟩
    | newline => exact ⟨.newline, by simp [Gap.text, linePass, Gap.addNewline], rfl⟩
    | blankLine => exact ⟨.blankLine, by simp [Gap.text, linePass, Gap.addNewline], rfl⟩
  obtain ⟨gap', hrun, htext⟩ := hread
  rw [hrun, isGapPass_linePass.runFrom_cons hc, isGapPass_linePass.runFrom_cons hc, htext]
  rfl

/-- The spacing of lines leaves a row of characters with gaps as it is. -/
theorem Spaced.linePass_runFrom {t : Text} (h : Spaced t) : linePass.runFrom .none t = t := by
  induction h with
  | single hc =>
    rw [isGapPass_linePass.runFrom_cons hc]
    rfl
  | cons gap hc ht ih =>
    rw [isGapPass_linePass.runFrom_cons hc, linePass_runFrom_gap gap ht, ih]
    rfl

/-- Normalising the lines of a row of characters with gaps changes nothing. -/
theorem Spaced.normaliseLines_eq {t : Text} (h : Spaced t) : normaliseLines t = t := by
  have hreturn : '\r' ∉ t := fun hmem => absurd (h.staysInLines _ hmem) (by decide)
  have hfirst : linePass.runFrom .start t = linePass.runFrom .none t := by
    cases h with
    | single hc | cons _ hc _ =>
      rw [isGapPass_linePass.runFrom_cons hc, isGapPass_linePass.runFrom_cons hc]
      rfl
  unfold normaliseLines
  rw [normaliseNewlines_of_not_mem hreturn, stripUnsupported_of_forall h.isUnsupported_of_mem]
  exact hfirst.trans h.linePass_runFrom

/-- **Twice.**  Normalising the lines of a text a second time changes nothing. -/
theorem normaliseLines_normaliseLines (t : Text) :
    normaliseLines (normaliseLines t) = normaliseLines t := by
  rcases spaced_normaliseLines t with hnil | hspaced
  · rw [hnil]
    rfl
  · exact hspaced.normaliseLines_eq

/-! ## Lines and words -/

/-- A blank that is not dropped opens a gap between words, whatever blank it is. -/
theorem wordPass_runFrom_blank {c : Char} (hblank : isBlank c = true)
    (hsupported : isUnsupported c = false) (gap : Gap) (t : Text) :
    wordPass.runFrom gap (c :: t) = wordPass.runFrom gap.addBlank t := by
  rw [Transducer.runFrom_cons]
  simp [wordPass, hblank, hsupported]

/-- A further blank adds nothing to a gap. -/
theorem Gap.addBlank_addBlank (gap : Gap) : gap.addBlank.addBlank = gap.addBlank := by
  cases gap <;> rfl

/-- A text on one line is the same whatever its line breaks are. -/
theorem normaliseWhitespace_normaliseNewlines (t : Text) :
    normaliseWhitespace (normaliseNewlines t) = normaliseWhitespace t := by
  have hn : isBlank '\n' = true ∧ isUnsupported '\n' = false := by decide
  have hr : isBlank '\r' = true ∧ isUnsupported '\r' = false := by decide
  -- behind a carriage return there is a gap, so a line feed adds nothing to it
  have held : ∀ (t : Text) (afterReturn : Bool) (gap : Gap),
      (afterReturn = true → gap.addBlank = gap) →
        wordPass.runFrom gap (newlinePass.runFrom afterReturn t) = wordPass.runFrom gap t := by
    intro t
    induction t with
    | nil =>
      intro afterReturn gap _
      rfl
    | cons c t ih =>
      intro afterReturn gap hgap
      by_cases hreturn : c = '\r'
      · have hstep : newlinePass.step afterReturn c = (true, ['\n']) := by
          simp [newlinePass, hreturn]
        rw [Transducer.runFrom_cons newlinePass, hstep, List.singleton_append,
          wordPass_runFrom_blank hn.1 hn.2, hreturn, wordPass_runFrom_blank hr.1 hr.2]
        exact ih true _ fun _ => gap.addBlank_addBlank
      · by_cases hskip : afterReturn = true ∧ c = '\n'
        · have hstep : newlinePass.step afterReturn c = (false, []) := by
            simp [newlinePass, hskip]
          rw [Transducer.runFrom_cons newlinePass, hstep, hskip.2, wordPass_runFrom_blank hn.1 hn.2,
            hgap hskip.1]
          apply ih
          intro h
          cases h
        · have hstep : newlinePass.step afterReturn c = (false, [c]) := by
            simpa [newlinePass, hreturn] using hskip
          rw [Transducer.runFrom_cons newlinePass, hstep, List.singleton_append,
            Transducer.runFrom_cons wordPass, Transducer.runFrom_cons wordPass]
          congr 1
          apply ih
          intro h
          cases h
  exact held t false .start fun h => by cases h

/-- A text on one line is the same without its unsupported characters. -/
theorem normaliseWhitespace_stripUnsupported (t : Text) :
    normaliseWhitespace (stripUnsupported t) = normaliseWhitespace t := by
  have held : ∀ (t : Text) (gap : Gap),
      wordPass.runFrom gap (stripUnsupported t) = wordPass.runFrom gap t := by
    intro t
    induction t with
    | nil =>
      intro gap
      rfl
    | cons c t ih =>
      intro gap
      unfold stripUnsupported at ih ⊢
      cases hunsupported : isUnsupported c with
      | true =>
        have hstep : wordPass.step gap c = (gap, []) := by
          simp [wordPass, hunsupported]
        rw [List.filter_cons_of_neg (by simp [hunsupported]), ih, Transducer.runFrom_cons, hstep]
        rfl
      | false =>
        rw [List.filter_cons_of_pos (by simp [hunsupported]), Transducer.runFrom_cons,
          Transducer.runFrom_cons, ih]
  exact held t .start

/-- The gap between words that is left behind a gap between lines. -/
def Gap.behind (before : Gap) : Gap → Gap
  | .start | .none => before
  | .space | .newline | .blankLine => before.addBlank

/-- A gap between lines is read as a gap between words. -/
theorem wordPass_runFrom_gap (before gap : Gap) (t : Text) :
    wordPass.runFrom before (gap.text ++ t) = wordPass.runFrom (before.behind gap) t := by
  have hspace : isBlank ' ' = true ∧ isUnsupported ' ' = false := by decide
  have hnewline : isBlank '\n' = true ∧ isUnsupported '\n' = false := by decide
  cases gap with
  | start | none => rfl
  | space => exact wordPass_runFrom_blank hspace.1 hspace.2 before t
  | newline => exact wordPass_runFrom_blank hnewline.1 hnewline.2 before t
  | blankLine =>
    show wordPass.runFrom before ('\n' :: '\n' :: t) = wordPass.runFrom before.addBlank t
    rw [wordPass_runFrom_blank hnewline.1 hnewline.2, wordPass_runFrom_blank hnewline.1 hnewline.2,
      Gap.addBlank_addBlank]

/-- Where the gaps of the two passes stand to each other: both at the start of
the text, or both behind a character that was written. -/
def Gap.Aligned (before gap : Gap) : Prop :=
  before = .start ∧ gap = .start ∨ before = .none ∧ gap ≠ .start

/-- A further blank is the same to the gaps of both passes. -/
theorem Gap.Aligned.grow {before gap : Gap} (h : before.Aligned gap) (c : Char) :
    before.behind (gap.grow c) = (before.behind gap).addBlank ∧ before.Aligned (gap.grow c) := by
  rcases h with ⟨rfl, rfl⟩ | ⟨rfl, hstart⟩
  · rw [Gap.grow_start]
    exact ⟨rfl, Or.inl ⟨rfl, rfl⟩⟩
  · unfold Gap.grow
    constructor
    · split <;> cases gap <;> simp_all [Gap.behind, Gap.addNewline, Gap.addBlank]
    · right
      split <;> cases gap <;> simp_all [Gap.addNewline, Gap.addBlank]

/-- **One line.**  A text on one line is the same whether its lines were
normalised before or not. -/
theorem normaliseWhitespace_normaliseLines (t : Text) :
    normaliseWhitespace (normaliseLines t) = normaliseWhitespace t := by
  have held : ∀ (t : Text) (before gap : Gap), (∀ c ∈ t, isUnsupported c = false) →
      before.Aligned gap →
        wordPass.runFrom before (linePass.runFrom gap t)
          = wordPass.runFrom (before.behind gap) t := by
    intro t
    induction t with
    | nil =>
      intro before gap _ _
      rfl
    | cons c t ih =>
      intro before gap ht hgap
      have ht' : ∀ d ∈ t, isUnsupported d = false := fun d hd => ht d (List.mem_cons_of_mem c hd)
      have hsupported := ht c List.mem_cons_self
      by_cases hblank : isBlank c = true
      · obtain ⟨hbehind, hgap'⟩ := hgap.grow c
        rw [wordPass_runFrom_blank hblank hsupported, linePass_runFrom_blank hblank,
          ih before _ ht' hgap', hbehind]
      · have hc : isSpacing c = false :=
          isSpacing_eq_false_iff.2 ⟨Bool.eq_false_iff.2 hblank, hsupported⟩
        have hstep : (wordPass.step (before.behind gap) c).1 = .none := by
          simp [wordPass, hblank, hsupported]
        rw [isGapPass_linePass.runFrom_cons hc, wordPass_runFrom_gap, Transducer.runFrom_cons,
          Transducer.runFrom_cons, hstep, ih .none .none ht' (Or.inr ⟨rfl, by decide⟩)]
        rfl
  have hsupported : ∀ c ∈ stripUnsupported (normaliseNewlines t), isUnsupported c = false :=
    fun c hc => isUnsupported_of_mem_strip hc
  calc normaliseWhitespace (normaliseLines t)
      = normaliseWhitespace (stripUnsupported (normaliseNewlines t)) :=
        held _ .start .start hsupported (Or.inl ⟨rfl, rfl⟩)
    _ = normaliseWhitespace (normaliseNewlines t) := normaliseWhitespace_stripUnsupported _
    _ = normaliseWhitespace t := normaliseWhitespace_normaliseNewlines t

/-! ## Texts that are normal already -/

/-- A text in which nothing is left to normalise. -/
structure IsNormal (t : Text) : Prop where
  supported : ∀ c ∈ t, isUnsupported c = false
  blank : ∀ c ∈ t, isBlank c = true → c = ' ' ∨ c = '\n'
  first : t.head?.any isBlank = false
  last : t.getLast?.any isBlank = false
  no_two_spaces : ¬ [' ', ' '] <:+: t
  no_space_at_end_of_line : ¬ [' ', '\n'] <:+: t
  no_space_at_start_of_line : ¬ ['\n', ' '] <:+: t
  no_three_breaks : ¬ ['\n', '\n', '\n'] <:+: t

/-- A row of characters with gaps is normal. -/
theorem Spaced.isNormal {t : Text} (h : Spaced t) : IsNormal t where
  supported := h.isUnsupported_of_mem
  blank c hc hblank := by
    have hstays := h.staysInLines c hc
    simpa [MessageTemplate.staysInLines, isSpacing, hblank] using hstays
  first := by
    obtain ⟨c, rest, rfl, hc⟩ := h.exists_first
    exact (isSpacing_eq_false_iff.1 hc).1
  last := by
    obtain ⟨front, c, rfl, hc⟩ := h.exists_last
    rw [List.getLast?_concat]
    exact (isSpacing_eq_false_iff.1 hc).1
  no_two_spaces := h.not_infix (by simp) fun gap => by cases gap <;> decide
  no_space_at_end_of_line := h.not_infix (by simp) fun gap => by cases gap <;> decide
  no_space_at_start_of_line := h.not_infix (by simp) fun gap => by cases gap <;> decide
  no_three_breaks := h.not_infix (by simp) fun gap => by cases gap <;> decide

/-- Every end of a normal text is a gap and a row of characters with gaps. -/
theorem IsNormal.exists_gap {t u : Text} (h : IsNormal t) (hu : u <:+ t) (hne : u ≠ []) :
    ∃ (gap : Gap) (v : Text), u = gap.text ++ v ∧ Spaced v := by
  have hclash : ∀ {w v : Text}, w ++ v <:+ t → w <:+: t :=
    fun hsuffix => (List.prefix_append _ _).isInfix.trans hsuffix.isInfix
  induction u with
  | nil => exact absurd rfl hne
  | cons c u ih =>
    have hc : c ∈ t := hu.subset List.mem_cons_self
    cases hblank : isBlank c with
    | false =>
      have hword : isSpacing c = false := isSpacing_eq_false_iff.2 ⟨hblank, h.supported c hc⟩
      by_cases hnil : u = []
      · exact ⟨.none, [c], by rw [hnil]; rfl, .single hword⟩
      · obtain ⟨gap, v, rfl, hv⟩ := ih ((List.suffix_cons c u).trans hu) hnil
        exact ⟨.none, c :: (gap.text ++ v), rfl, .cons gap hword hv⟩
    | true =>
      have hnil : u ≠ [] := by
        rintro rfl
        obtain ⟨front, rfl⟩ := hu
        have hlast := h.last
        rw [List.getLast?_concat, Option.any_some, hblank] at hlast
        cases hlast
      obtain ⟨gap, v, rfl, hv⟩ := ih ((List.suffix_cons c u).trans hu) hnil
      rcases h.blank c hc hblank with rfl | rfl
      · cases gap with
        | start | none => exact ⟨.space, v, rfl, hv⟩
        | space => exact absurd (hclash (w := [' ', ' ']) hu) h.no_two_spaces
        | newline | blankLine =>
          exact absurd (hclash (w := [' ', '\n']) hu) h.no_space_at_end_of_line
      · cases gap with
        | start | none => exact ⟨.newline, v, rfl, hv⟩
        | space => exact absurd (hclash (w := ['\n', ' ']) hu) h.no_space_at_start_of_line
        | newline => exact ⟨.blankLine, v, rfl, hv⟩
        | blankLine => exact absurd (hclash (w := ['\n', '\n', '\n']) hu) h.no_three_breaks

/-- A normal text is empty or a row of characters with gaps. -/
theorem isNormal_iff {t : Text} : IsNormal t ↔ t = [] ∨ Spaced t := by
  constructor
  · intro h
    by_cases hnil : t = []
    · exact Or.inl hnil
    · right
      obtain ⟨gap, u, rfl, hu⟩ := h.exists_gap List.suffix_rfl hnil
      have hfirst := h.first
      cases gap with
      | start | none => exact hu
      | space | newline | blankLine => exact absurd hfirst (by simp [Gap.text, isBlank])
  · rintro (rfl | h)
    · constructor <;> simp
    · exact h.isNormal

/-- **Normal texts.**  Exactly the texts without anything to normalise are left
as they are when their lines are normalised.  Every text becomes one of them, so
nothing changes a second time, and its words on one line stay the same. -/
theorem normaliseLines_eq_self_iff_isNormal (t : Text) :
    (normaliseLines t = t ↔ IsNormal t)
      ∧ IsNormal (normaliseLines t)
      ∧ normaliseLines (normaliseLines t) = normaliseLines t
      ∧ normaliseWhitespace (normaliseLines t) = normaliseWhitespace t := by
  have hnormal : IsNormal (normaliseLines t) := isNormal_iff.2 (spaced_normaliseLines t)
  refine ⟨⟨fun hself => hself ▸ hnormal, fun h => ?_⟩, hnormal, normaliseLines_normaliseLines t,
    normaliseWhitespace_normaliseLines t⟩
  rcases isNormal_iff.1 h with rfl | hspaced
  · rfl
  · exact hspaced.normaliseLines_eq

end MessageTemplate

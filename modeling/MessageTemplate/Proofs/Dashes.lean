/-
# Dashes between blanks

Between spaces and tabs the dash pass reads a text word by word.  A dash among
the words that have one of these on both sides (`spacedWords`) becomes an en dash,
and the blanks behind it are taken with it, so that a dash right behind it is
copied like any other word (`spacedWords_replaceSpacedHyphens`).  In a row of
dashes every second one is therefore left (`spaced_hyphen_left_iff`).  What was
replaced once stays as it is (`replaceSpacedHyphens_replaceSpacedHyphens`).
-/
import Mathlib
import MessageTemplate.Proofs.Typography

namespace MessageTemplate

/-! ## The pass, word by word -/

/-- A dash is a word. -/
theorem word_of_mem_dashes :
    ∀ dash ∈ dashes, dash ≠ [] ∧ ∀ c ∈ dash, isSpaceOrTab c = false := by
  simp [dashes, isSpaceOrTab]

section Word

variable {w : Text} (hw : ∀ c ∈ w, isSpaceOrTab c = false)
include hw

/-- Where nothing is held back a word is copied. -/
theorem dashPass_runFrom_text (t : Text) :
    dashPass.runFrom .text (w ++ t) = w ++ dashPass.runFrom .text t := by
  induction w with
  | nil => rfl
  | cons c w ih =>
    rw [List.forall_mem_cons] at hw
    have hstep : dashPass.step .text c = (.text, [c]) := by simp [dashPass, hw.1]
    rw [List.cons_append, Transducer.runFrom_cons, hstep, ih hw.2]
    rfl

/-- Behind a spaced dash a word is copied. -/
theorem dashPass_runFrom_spaced (hne : w ≠ []) (t : Text) :
    dashPass.runFrom .spaced (w ++ t) = w ++ dashPass.runFrom .text t := by
  cases w with
  | nil => exact absurd rfl hne
  | cons c w =>
    rw [List.forall_mem_cons] at hw
    have hstep : dashPass.step .spaced c = (.text, [c]) := by simp [dashPass, hw.1]
    rw [List.cons_append, Transducer.runFrom_cons, hstep, dashPass_runFrom_text hw.2]
    rfl

/-- Characters that make no longer dash of a dash are copied behind it. -/
theorem dashPass_runFrom_dash {hyphens : Text} (hhyphens : hyphens ∈ dashes)
    (hword : hyphens ++ w ∉ dashes) (before t : Text) :
    dashPass.runFrom (.dash before hyphens) (w ++ t)
      = before.reverse ++ hyphens ++ w ++ dashPass.runFrom .text t := by
  induction w generalizing hyphens with
  | nil => exact absurd (by rwa [List.append_nil]) hword
  | cons c w ih =>
    rw [List.forall_mem_cons] at hw
    rw [List.cons_append, Transducer.runFrom_cons]
    by_cases hextends : c = '-' ∧ extendsDash hyphens = true
    · obtain ⟨rfl, hextends⟩ := hextends
      have hstep : dashPass.step (.dash before hyphens) '-'
          = (.dash before (hyphens ++ ['-']), []) := by
        simp [dashPass, hw.1, hextends]
      rw [hstep, ih hw.2 (mem_dashes_of_extendsDash hextends) (by simpa using hword)]
      simp
    · have hstep : dashPass.step (.dash before hyphens) c
          = (.text, before.reverse ++ hyphens ++ [c]) := by
        simp [dashPass, hw.1, hextends]
      rw [hstep, dashPass_runFrom_text hw.2]
      simp

/-- Behind blanks a dash is held back, and any other word is copied. -/
theorem dashPass_runFrom_blanks (hne : w ≠ []) (before t : Text) :
    dashPass.runFrom (.blanks before) (w ++ t)
      = if w ∈ dashes then dashPass.runFrom (.dash before w) t
        else before.reverse ++ w ++ dashPass.runFrom .text t := by
  by_cases hdash : w ∈ dashes
  · rw [if_pos hdash]
    simp only [dashes, List.mem_cons, List.not_mem_nil, or_false] at hdash
    rcases hdash with rfl | rfl | rfl | rfl | rfl
    all_goals simp [dashPass, isSpaceOrTab, extendsDash]
  · rw [if_neg hdash]
    cases w with
    | nil => exact absurd rfl hne
    | cons c w =>
      rw [List.forall_mem_cons] at hw
      rw [List.cons_append, Transducer.runFrom_cons]
      by_cases hc : isDash c = true
      · have hmem : [c] ∈ dashes := by
          simp only [isDash, Bool.or_eq_true, beq_iff_eq] at hc
          rcases hc with (rfl | rfl) | rfl <;> decide
        have hstep : dashPass.step (.blanks before) c = (.dash before [c], []) := by
          rw [isDash] at hc
          simp only [dashPass, hw.1, hc]
          rfl
        rw [hstep, dashPass_runFrom_dash hw.2 hmem hdash]
        simp
      · rw [dashPass_step_of_plain hw.1 (Bool.eq_false_iff.2 hc), dashPass_runFrom_text hw.2]
        simp [DashState.held]

section Ended

variable {c : Char} (hc : isSpaceOrTab c = true) (t : Text)
include hc

/-- A word that is copied is copied in front of the blank behind it. -/
theorem dashPass_runFrom_text_cons :
    dashPass.runFrom .text (w ++ c :: t) = w ++ dashPass.runFrom (.blanks [c]) t := by
  have hstep : dashPass.step .text c = (.blanks [c], []) := by simp [dashPass, hc]
  rw [dashPass_runFrom_text hw, Transducer.runFrom_cons, hstep]
  rfl

/-- Behind a spaced dash a word is copied, a dash as any other. -/
theorem dashPass_runFrom_spaced_cons (hne : w ≠ []) :
    dashPass.runFrom .spaced (w ++ c :: t) = w ++ dashPass.runFrom (.blanks [c]) t := by
  rw [dashPass_runFrom_spaced hw hne, ← List.nil_append (c :: t),
    dashPass_runFrom_text_cons (by simp) hc]
  rfl

/-- Between blanks a dash becomes an en dash, and any other word is copied. -/
theorem dashPass_runFrom_blanks_cons (hne : w ≠ []) (before : Text) :
    dashPass.runFrom (.blanks before) (w ++ c :: t)
      = if w ∈ dashes then ' ' :: '–' :: ' ' :: dashPass.runFrom .spaced t
        else before.reverse ++ (w ++ dashPass.runFrom (.blanks [c]) t) := by
  have hstep : dashPass.step (.dash before w) c = (.spaced, [' ', '–', ' ']) := by
    simp [dashPass, hc]
  rw [dashPass_runFrom_blanks hw hne]
  split
  · rw [Transducer.runFrom_cons, hstep]
    rfl
  · rw [← List.nil_append (c :: t), dashPass_runFrom_text_cons (by simp) hc, List.append_assoc]
    rfl

end Ended

/-- At the end of a text the last word is copied behind the blanks in front of it. -/
theorem dashPass_runFrom_blanks_end (before : Text) :
    dashPass.runFrom (.blanks before) w = before.reverse ++ w := by
  by_cases hne : w = []
  · rw [hne, Transducer.runFrom_nil, List.append_nil]
    rfl
  · have hrun := dashPass_runFrom_blanks hw hne before []
    rw [List.append_nil, Transducer.runFrom_nil, Transducer.runFrom_nil] at hrun
    rw [hrun]
    split
    · rfl
    · exact List.append_nil _

/-- At the end of a text the last word is copied behind a spaced dash. -/
theorem dashPass_runFrom_spaced_end : dashPass.runFrom .spaced w = w := by
  by_cases hne : w = []
  · rw [hne]
    rfl
  · have hrun := dashPass_runFrom_spaced hw hne []
    rw [List.append_nil, Transducer.runFrom_nil] at hrun
    exact hrun.trans (List.append_nil w)

end Word

/-! ## Words between blanks -/

/-- The words of a text that have a space or tab behind them. -/
def endedWords (t : Text) : List Text :=
  (t.splitOnP isSpaceOrTab).dropLast.filter fun w => !w.isEmpty

/-- The words of a text that have a space or tab on both sides. -/
def spacedWords (t : Text) : List Text :=
  (t.splitOnP isSpaceOrTab).tail.dropLast.filter fun w => !w.isEmpty

/-- Whether a word stands in a text with a space or tab on both sides. -/
def StandsSpaced (w t : Text) : Prop :=
  ∃ front before after rest, t = front ++ before :: (w ++ after :: rest)
    ∧ isSpaceOrTab before = true ∧ isSpaceOrTab after = true

section Words

variable {w : Text} {c : Char}

/-- Nothing ends the last word of a text. -/
theorem endedWords_of_forall (hw : ∀ c ∈ w, isSpaceOrTab c = false) : endedWords w = [] := by
  rw [endedWords, Text.splitOnP_of_forall hw]
  rfl

/-- A blank ends the word in front of it. -/
theorem endedWords_append_cons (hw : ∀ c ∈ w, isSpaceOrTab c = false)
    (hc : isSpaceOrTab c = true) (t : Text) :
    endedWords (w ++ c :: t) = (if w = [] then [] else [w]) ++ endedWords t := by
  unfold endedWords
  rw [List.splitOnP_append_cons w t hc, Text.splitOnP_of_forall hw,
    List.dropLast_append_of_ne_nil (List.splitOnP_ne_nil _ _), List.filter_append]
  cases w <;> rfl

/-- Blanks in front of a text end no word. -/
theorem endedWords_append_of_forall (hw : ∀ c ∈ w, isSpaceOrTab c = true) (t : Text) :
    endedWords (w ++ t) = endedWords t := by
  induction w with
  | nil => rfl
  | cons c w ih =>
    rw [List.forall_mem_cons] at hw
    have hfirst := endedWords_append_cons (w := []) (by simp) hw.1 (w ++ t)
    rw [List.cons_append, ← ih hw.2]
    exact hfirst

/-- A text without blanks has no word between any. -/
theorem spacedWords_of_forall (hw : ∀ c ∈ w, isSpaceOrTab c = false) : spacedWords w = [] := by
  rw [spacedWords, Text.splitOnP_of_forall hw]
  rfl

/-- Behind the first blank of a text each word that is ended has blanks on both sides. -/
theorem spacedWords_append_cons (hw : ∀ c ∈ w, isSpaceOrTab c = false)
    (hc : isSpaceOrTab c = true) (t : Text) : spacedWords (w ++ c :: t) = endedWords t := by
  unfold spacedWords endedWords
  rw [List.splitOnP_append_cons w t hc, Text.splitOnP_of_forall hw]
  rfl

/-- A word that is ended stands at the start of the text or behind a blank. -/
theorem exists_of_mem_endedWords {t : Text} (h : w ∈ endedWords t) :
    ∃ front after rest, t = front ++ (w ++ after :: rest)
      ∧ front.getLast?.all isSpaceOrTab = true ∧ isSpaceOrTab after = true := by
  induction t using Text.induction_on_runs isSpaceOrTab with
  | last v hv =>
    rw [endedWords_of_forall hv] at h
    cases h
  | next v c t hv hc ih =>
    rw [endedWords_append_cons hv hc, List.mem_append] at h
    rcases h with h | h
    · split at h
      · cases h
      · rw [List.mem_singleton] at h
        exact ⟨[], c, t, by rw [h]; rfl, rfl, hc⟩
    · obtain ⟨front, after, rest, rfl, hfront, hafter⟩ := ih h
      refine ⟨v ++ c :: front, after, rest, by simp, ?_, hafter⟩
      rw [List.getLast?_append_of_ne_nil v (List.cons_ne_nil c front), List.getLast?_cons]
      cases hlast : front.getLast? with
      | none => exact hc
      | some d =>
        rw [hlast] at hfront
        exact hfront

/-- **Spaced words.**  They are the texts without blanks that stand between blanks. -/
theorem mem_spacedWords_iff (hne : w ≠ []) (hw : ∀ c ∈ w, isSpaceOrTab c = false) {t : Text} :
    w ∈ spacedWords t ↔ StandsSpaced w t := by
  constructor
  · intro h
    induction t using Text.induction_on_runs isSpaceOrTab with
    | last v hv =>
      rw [spacedWords_of_forall hv] at h
      cases h
    | next v c t hv hc _ =>
      rw [spacedWords_append_cons hv hc] at h
      obtain ⟨front, after, rest, rfl, hfront, hafter⟩ := exists_of_mem_endedWords h
      rcases front.eq_nil_or_concat' with rfl | ⟨front, d, rfl⟩
      · exact ⟨v, c, after, rest, rfl, hc, hafter⟩
      · rw [List.getLast?_concat] at hfront
        exact ⟨v ++ c :: front, d, after, rest, by simp, hfront, hafter⟩
  · rintro ⟨front, before, after, rest, rfl, hbefore, hafter⟩
    have hpieces : (front ++ before :: (w ++ after :: rest)).splitOnP isSpaceOrTab
        = front.splitOnP isSpaceOrTab ++ ([w] ++ rest.splitOnP isSpaceOrTab) := by
      rw [List.splitOnP_append_cons front _ hbefore, List.splitOnP_append_cons w rest hafter,
        Text.splitOnP_of_forall hw]
    rw [spacedWords, hpieces, List.tail_append_of_ne_nil (List.splitOnP_ne_nil _ _),
      List.dropLast_append_of_ne_nil (by simp), List.mem_filter]
    refine ⟨List.mem_append_right _ ?_, by simpa using hne⟩
    rw [List.dropLast_append_of_ne_nil (List.splitOnP_ne_nil _ _)]
    exact List.mem_append_left _ (List.mem_singleton_self w)

end Words

/-! ## Dashes in a row -/

/-- The pass over the words between blanks: a dash becomes an en dash, unless the
one in front of it just did.  Its state says whether it did. -/
def enDashPass : Transducer Bool Text Text where
  start := false
  step := fun replaced w =>
    if !replaced && dashes.contains w then (true, [['–']]) else (false, [w])
  finish := fun _ => []

/-- A dash becomes an en dash. -/
theorem enDashPass_runFrom_of_mem {w : Text} (hdash : w ∈ dashes) (ws : List Text) :
    enDashPass.runFrom false (w :: ws) = ['–'] :: enDashPass.runFrom true ws := by
  rw [Transducer.runFrom_cons]
  simp [enDashPass, hdash]

/-- Any other word, and a dash right behind one that became an en dash, is copied. -/
theorem enDashPass_runFrom_of_copied {replaced : Bool} {w : Text}
    (h : replaced = true ∨ w ∉ dashes) (ws : List Text) :
    enDashPass.runFrom replaced (w :: ws) = w :: enDashPass.runFrom false ws := by
  have hstep : enDashPass.step replaced w = (false, [w]) := by
    rcases h with rfl | h <;> simp [enDashPass, *]
  rw [Transducer.runFrom_cons, hstep]
  rfl

/-- Blanks that are written as they were read end no word. -/
theorem exists_blank_of_copied {before : Text} (hne : before ≠ [])
    (hbefore : ∀ c ∈ before, isSpaceOrTab c = true) (u : Text) :
    ∃ b v, isSpaceOrTab b = true ∧ before.reverse ++ u = b :: v ∧ endedWords v = endedWords u := by
  obtain ⟨blanks, b, rfl⟩ := (List.eq_nil_or_concat' before).resolve_left hne
  rw [List.forall_mem_append, List.forall_mem_singleton] at hbefore
  refine ⟨b, blanks.reverse ++ u, hbefore.2, by rw [List.reverse_concat]; rfl, ?_⟩
  exact endedWords_append_of_forall (by simpa using hbefore.1) u

/-- **Words.**  Of the words that are ended the dash pass makes those that become of
words between blanks, behind a spaced dash and behind blanks alike; for blanks that
it holds back it writes at least one. -/
theorem endedWords_dashPass (t : Text) :
    endedWords (dashPass.runFrom .spaced t) = enDashPass.runFrom true (endedWords t)
      ∧ ∀ before : Text, before ≠ [] → (∀ c ∈ before, isSpaceOrTab c = true) →
        ∃ b u, isSpaceOrTab b = true ∧ dashPass.runFrom (.blanks before) t = b :: u
          ∧ endedWords u = enDashPass.runFrom false (endedWords t) := by
  induction t using Text.induction_on_runs isSpaceOrTab with
  | last w hw =>
    rw [dashPass_runFrom_spaced_end hw, endedWords_of_forall hw]
    refine ⟨rfl, fun before hne hbefore => ?_⟩
    obtain ⟨b, v, hb, hv, hwords⟩ := exists_blank_of_copied hne hbefore w
    rw [endedWords_of_forall hw] at hwords
    exact ⟨b, v, hb, (dashPass_runFrom_blanks_end hw before).trans hv, hwords⟩
  | next w c t hw hc ih =>
    obtain ⟨hspaced, hblanks⟩ := ih
    rw [endedWords_append_cons hw hc]
    by_cases hnil : w = []
    · -- one more blank joins those in front of it
      rw [if_pos hnil, hnil]
      have hstep : dashPass.step .spaced c = (.spaced, []) := by simp [dashPass, hc]
      refine ⟨?_, fun before _ hbefore => ?_⟩
      · rw [List.nil_append, Transducer.runFrom_cons, hstep]
        exact hspaced
      · have hjoined : dashPass.step (.blanks before) c = (.blanks (c :: before), []) := by
          simp [dashPass, hc]
        rw [List.nil_append, Transducer.runFrom_cons, hjoined]
        exact hblanks (c :: before) (List.cons_ne_nil _ _) (List.forall_mem_cons.2 ⟨hc, hbefore⟩)
    · rw [if_neg hnil, List.singleton_append]
      -- a word that is copied is ended by what is written for the blank behind it
      obtain ⟨b, u, hb, hrun, hwords⟩ := hblanks [c] (List.cons_ne_nil _ _) (by simpa using hc)
      have hword : endedWords (w ++ dashPass.runFrom (.blanks [c]) t)
          = w :: enDashPass.runFrom false (endedWords t) := by
        rw [hrun, endedWords_append_cons hw hb, if_neg hnil, hwords]
        rfl
      refine ⟨?_, fun before hne hbefore => ?_⟩
      · rw [dashPass_runFrom_spaced_cons hw hc t hnil, hword,
          enDashPass_runFrom_of_copied (Or.inl rfl)]
      · rw [dashPass_runFrom_blanks_cons hw hc t hnil]
        split
        · rename_i hdash
          refine ⟨' ', _, by decide, rfl, ?_⟩
          have hended := endedWords_append_cons (w := ['–']) (c := ' ') (by simp [isSpaceOrTab])
            (by decide) (dashPass.runFrom .spaced t)
          rw [enDashPass_runFrom_of_mem hdash, ← hspaced]
          exact hended
        · rename_i hother
          obtain ⟨b', v, hb', hv, hended⟩ := exists_blank_of_copied hne hbefore
            (w ++ dashPass.runFrom (.blanks [c]) t)
          exact ⟨b', v, hb', hv, by rw [hended, hword, enDashPass_runFrom_of_copied (Or.inr hother)]⟩

/-- **Dashes between blanks.**  The words between the blanks of a text are rewritten
one after the other. -/
theorem spacedWords_replaceSpacedHyphens (t : Text) :
    spacedWords (replaceSpacedHyphens t) = enDashPass.run (spacedWords t) := by
  show spacedWords (dashPass.runFrom .text t) = _
  induction t using Text.induction_on_runs isSpaceOrTab with
  | last w hw =>
    have hrun := dashPass_runFrom_text hw []
    rw [List.append_nil, Transducer.runFrom_nil] at hrun
    rw [hrun, spacedWords_of_forall hw]
    exact spacedWords_of_forall (by simpa [dashPass] using hw)
  | next w c t hw hc _ =>
    obtain ⟨b, u, hb, hrun, hwords⟩ := (endedWords_dashPass t).2 [c] (List.cons_ne_nil _ _)
      (by simpa using hc)
    rw [dashPass_runFrom_text_cons hw hc, hrun, spacedWords_append_cons hw hb,
      spacedWords_append_cons hw hc, hwords]
    rfl

/-! ## Dashes that are left -/

/-- The dashes but the en dash: one to three hyphens, and the em dash. -/
def hyphens : List Text :=
  [['-'], ['-', '-'], ['-', '-', '-'], ['—']]

/-- The dashes at the end of a row of words, up to the last word that is none. -/
def lastDashes (ws : List Text) : List Text :=
  ws.rtakeWhile dashes.contains

/-- A hyphen is a dash, but no en dash. -/
theorem dash_of_mem_hyphens : ∀ dash ∈ hyphens, dash ∈ dashes ∧ dash ≠ ['–'] := by
  decide

/-- A dash has just been replaced behind an odd number of dashes in a row. -/
theorem stateAfter_enDashPass (ws : List Text) :
    enDashPass.stateAfter false ws = decide (Odd (lastDashes ws).length) := by
  induction ws using List.reverseRecOn with
  | nil => rfl
  | append_singleton ws w ih =>
    have hstep : enDashPass.stateAfter false (ws ++ [w])
        = (enDashPass.step (enDashPass.stateAfter false ws) w).1 := by
      simp [Transducer.stateAfter]
    rw [hstep, ih, lastDashes, lastDashes]
    by_cases hdash : w ∈ dashes
    · rw [List.rtakeWhile_concat_pos _ _ _ (by simpa using hdash), List.length_append,
        List.length_singleton]
      by_cases hodd : Odd (ws.rtakeWhile dashes.contains).length
      · simp [enDashPass, hodd, Nat.odd_add_one]
      · simp [enDashPass, hodd, Nat.odd_add_one, hdash]
    · rw [List.rtakeWhile_concat_neg _ _ _ (by simpa using hdash)]
      simp [enDashPass, hdash]

/-- A dash that is no en dash is left where the one in front of it was replaced. -/
theorem mem_enDashPass_runFrom {dash : Text} (hdash : dash ∈ dashes) (hne : dash ≠ ['–'])
    (replaced : Bool) (ws : List Text) :
    dash ∈ enDashPass.runFrom replaced ws
      ↔ ∃ before after, ws = before ++ dash :: after
        ∧ enDashPass.stateAfter replaced before = true := by
  induction ws generalizing replaced with
  | nil =>
    refine iff_of_false List.not_mem_nil ?_
    rintro ⟨before, after, h, -⟩
    simp at h
  | cons w ws ih =>
    -- the dash is the first word, or stands further on
    have hplaces : (∃ before after, w :: ws = before ++ dash :: after
          ∧ enDashPass.stateAfter replaced before = true)
        ↔ w = dash ∧ replaced = true
          ∨ dash ∈ enDashPass.runFrom (enDashPass.step replaced w).1 ws := by
      rw [ih]
      constructor
      · rintro ⟨before, after, hsplit, hstate⟩
        cases before with
        | nil =>
          cases hsplit
          exact Or.inl ⟨rfl, hstate⟩
        | cons v before =>
          cases hsplit
          exact Or.inr ⟨before, after, rfl, hstate⟩
      · rintro (⟨rfl, hreplaced⟩ | ⟨before, after, rfl, hstate⟩)
        · exact ⟨[], ws, rfl, hreplaced⟩
        · exact ⟨w :: before, after, rfl, hstate⟩
    rw [hplaces]
    by_cases hcopied : replaced = true ∨ w ∉ dashes
    · have hstep : (enDashPass.step replaced w).1 = false := by
        rcases hcopied with rfl | h <;> simp [enDashPass, *]
      rw [enDashPass_runFrom_of_copied hcopied, hstep, List.mem_cons]
      refine or_congr_left ⟨?_, fun h => h.1.symm⟩
      rintro rfl
      exact ⟨rfl, hcopied.resolve_right (not_not_intro hdash)⟩
    · rw [not_or, not_not, Bool.not_eq_true] at hcopied
      obtain ⟨rfl, hw⟩ := hcopied
      have hstep : (enDashPass.step false w).1 = true := by simp [enDashPass, hw]
      rw [enDashPass_runFrom_of_mem hw, hstep, List.mem_cons]
      simp [hne]

/-- **Spaced hyphens.**  A text in which the spaced dashes were replaced still has
hyphens or an em dash between blanks exactly if the text had them behind an odd
number of dashes, with nothing but blanks between one and the next. -/
theorem spaced_hyphen_left_iff (t : Text) :
    (∃ dash ∈ hyphens, StandsSpaced dash (replaceSpacedHyphens t))
      ↔ ∃ dash ∈ hyphens, ∃ before after, spacedWords t = before ++ dash :: after
        ∧ Odd (lastDashes before).length := by
  refine exists_congr fun dash => and_congr_right fun hdash => ?_
  obtain ⟨hmem, hne⟩ := dash_of_mem_hyphens dash hdash
  obtain ⟨hnil, hword⟩ := word_of_mem_dashes dash hmem
  rw [← mem_spacedWords_iff hnil hword, spacedWords_replaceSpacedHyphens]
  show dash ∈ enDashPass.runFrom false (spacedWords t) ↔ _
  rw [mem_enDashPass_runFrom hmem hne]
  simp only [stateAfter_enDashPass, decide_eq_true_eq]

/-- Of two hyphens with one space between them the second is left. -/
theorem second_hyphen_left :
    replaceSpacedHyphens "a - - b".toList = "a – - b".toList
      ∧ StandsSpaced ['-'] (replaceSpacedHyphens "a - - b".toList) := by
  have hwritten : replaceSpacedHyphens "a - - b".toList = "a – - b".toList := by decide
  refine ⟨hwritten, ?_⟩
  rw [hwritten]
  exact ⟨"a –".toList, ' ', ' ', "b".toList, by decide, rfl, rfl⟩

/-! ## Dashes a second time -/

/-- Blanks are held back one by one. -/
theorem dashPass_runFrom_blanks_blanks {w : Text} (hw : ∀ c ∈ w, isSpaceOrTab c = true)
    (before t : Text) :
    dashPass.runFrom (.blanks before) (w ++ t) = dashPass.runFrom (.blanks (w.reverse ++ before)) t := by
  induction w generalizing before with
  | nil => rfl
  | cons c w ih =>
    rw [List.forall_mem_cons] at hw
    have hstep : dashPass.step (.blanks before) c = (.blanks (c :: before), []) := by
      simp [dashPass, hw.1]
    rw [List.cons_append, Transducer.runFrom_cons, hstep, List.nil_append, ih hw.2]
    simp

/-- The state of the dash pass when it reads what it wrote before it was in a state:
nothing is held back, but blanks behind a spaced dash go unwritten again. -/
def DashState.reread : DashState → DashState
  | .spaced => .spaced
  | _ => .text

/-- What the dash pass held back, it holds back again when it reads it once more. -/
theorem dashPass_runFrom_held {s : DashState} (hs : s.Holds) (t : Text) :
    dashPass.runFrom s.reread (s.held ++ t) = dashPass.runFrom s t := by
  have hblanks : ∀ {before : Text}, before ≠ [] → (∀ c ∈ before, isSpaceOrTab c = true) →
      ∀ t, dashPass.runFrom .text (before.reverse ++ t) = dashPass.runFrom (.blanks before) t := by
    intro before hne hbefore t
    obtain ⟨blanks, c, rfl⟩ := (List.eq_nil_or_concat' before).resolve_left hne
    rw [List.forall_mem_append, List.forall_mem_singleton] at hbefore
    have hstep : dashPass.step .text c = (.blanks [c], []) := by simp [dashPass, hbefore.2]
    rw [List.reverse_concat, List.cons_append, Transducer.runFrom_cons, hstep, List.nil_append,
      dashPass_runFrom_blanks_blanks (by simpa using hbefore.1), List.reverse_reverse]
  cases s with
  | text | spaced => rfl
  | blanks before => exact hblanks hs.1 hs.2 t
  | dash before dash =>
    obtain ⟨hne, hbefore, hdash⟩ := hs
    have hword := word_of_mem_dashes dash hdash
    rw [DashState.held, List.append_assoc]
    show dashPass.runFrom .text _ = _
    rw [hblanks hne hbefore, dashPass_runFrom_blanks hword.2 hword.1, if_pos hdash]

/-- **One character.**  The dash pass writes nothing for it, or writes what it held
back and the character, or a spaced dash. -/
theorem dashPass_step_cases (s : DashState) (c : Char) :
    (dashPass.step s c).2 = [] ∧ (dashPass.step s c).1.reread = s.reread
      ∨ dashPass.step s c = (.text, s.held ++ [c])
      ∨ dashPass.step s c = (.spaced, [' ', '–', ' ']) ∧ s.reread = .text := by
  cases s with
  | text =>
    simp only [dashPass]
    split
    · exact Or.inl ⟨rfl, rfl⟩
    · exact Or.inr (Or.inl rfl)
  | blanks before =>
    simp only [dashPass]
    split
    · exact Or.inl ⟨rfl, rfl⟩
    split
    · exact Or.inl ⟨rfl, rfl⟩
    · exact Or.inr (Or.inl rfl)
  | dash before hyphens =>
    simp only [dashPass]
    split
    · exact Or.inr (Or.inr ⟨rfl, rfl⟩)
    split
    · exact Or.inl ⟨rfl, rfl⟩
    · exact Or.inr (Or.inl rfl)
  | spaced =>
    simp only [dashPass]
    split
    · exact Or.inl ⟨rfl, rfl⟩
    · exact Or.inr (Or.inl rfl)

/-- **Twice.**  Where the spaced dashes of a text were replaced there is nothing left
to replace. -/
theorem replaceSpacedHyphens_replaceSpacedHyphens (t : Text) :
    replaceSpacedHyphens (replaceSpacedHyphens t) = replaceSpacedHyphens t := by
  have held : ∀ (t : Text) (s : DashState), s.Holds →
      dashPass.runFrom s.reread (dashPass.runFrom s t) = dashPass.runFrom s t := by
    intro t
    induction t with
    | nil =>
      intro s hs
      have hagain := dashPass_runFrom_held hs []
      rw [List.append_nil, Transducer.runFrom_nil, dashPass_finish] at hagain
      rw [Transducer.runFrom_nil, dashPass_finish, hagain]
    | cons c t ih =>
      intro s hs
      have hrest := ih _ (dashPass_step_writes hs c).1
      rw [Transducer.runFrom_cons]
      rcases dashPass_step_cases s c with ⟨hnil, hread⟩ | hcopied | ⟨hspaced, hread⟩
      · rw [hread] at hrest
        rw [hnil]
        exact hrest
      · -- the second time the character is copied from the same state
        rw [hcopied] at hrest ⊢
        rw [List.append_assoc, dashPass_runFrom_held hs, List.singleton_append,
          Transducer.runFrom_cons, hcopied]
        exact (congrArg (s.held ++ [c] ++ ·) hrest).trans (List.append_assoc _ _ _)
      · have hagain : ∀ u, dashPass.runFrom .text (' ' :: '–' :: ' ' :: u)
            = ' ' :: '–' :: ' ' :: dashPass.runFrom .spaced u := by
          intro u
          simp [dashPass, isSpaceOrTab]
        rw [hspaced] at hrest ⊢
        rw [hread]
        exact (hagain _).trans (congrArg (' ' :: '–' :: ' ' :: ·) hrest)
  exact held t .text trivial

end MessageTemplate

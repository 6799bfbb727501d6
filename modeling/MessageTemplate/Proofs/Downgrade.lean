/-
# Texts as they are measured and as they are sent

Measuring replaces the typographic characters of a text by their lookalikes;
sending does the same and also writes a question mark for what cannot be sent.
`lookalikes` lists the typographic characters, so that a fact about all of
them is read off one table.

The two texts always have as many characters as each other
(`length_downgrade`), and the sent one stays within the measured one
(`Length.ofText_downgrade_within`).  How many characters the replacement adds
or drops is told by the ellipses and the characters of no width
(`length_replaceLookalikes`).  In a text with normalised lines, sending keeps
the spacing as it is (`downgrade_normaliseLines`).
-/
import MessageTemplate.Gsm.Downgrade
import MessageTemplate.Proofs.Length
import MessageTemplate.Proofs.Spacing

namespace MessageTemplate.Gsm

/-! ## The typographic characters -/

/-- The typographic characters with their lookalikes. -/
def lookalikes : List (Char × Text) := [
  ('–', ['-']), ('—', ['-']), ('…', ['.', '.', '.']), ('‘', ['\'']), ('’', ['\'']),
  ('“', ['"']), ('”', ['"']), ('\u00a0', [' ']), ('\t', [' ']), ('\u180e', []),
  ('\u200b', []), ('\u200c', []), ('\u200d', []), ('\u2060', []), ('\ufeff', [])]

/-- Whether a character is typographic, that is, has a lookalike. -/
def isTypographic (c : Char) : Bool :=
  (lookalike? c).isSome

/-- Whether a character has no width: it is typographic and dropped. -/
def isWidthless (c : Char) : Bool :=
  lookalike? c == some []

/-- The table holds every lookalike. -/
theorem mem_lookalikes {c : Char} {w : Text} (h : lookalike? c = some w) :
    (c, w) ∈ lookalikes := by
  simp only [lookalike?, Bool.or_eq_true, beq_iff_eq] at h
  simp only [lookalikes, List.mem_cons, Prod.mk.injEq]
  -- one case for each line of the definition; the last leaves no lookalike
  repeat' split at h
  all_goals grind

/-- No typographic character is in the alphabets, and every lookalike is. -/
theorem isOutside_lookalikes :
    ∀ p ∈ lookalikes, isOutside p.1 = true ∧ p.2.any isOutside = false := by
  decide

/-- The ellipsis becomes three characters, one of no width none, and any other
typographic character one. -/
theorem length_lookalikes :
    ∀ p ∈ lookalikes, p.2.length + (if p.2 = [] then 1 else 0)
      = 1 + 2 * (if p.1 = '…' then 1 else 0) := by
  decide

/-- Characters of no width do not stand in a text with normal spacing. -/
theorem staysInLines_lookalikes :
    ∀ p ∈ lookalikes, p.2 = [] → staysInLines p.1 = false := by
  decide

theorem isOutside_of_lookalike? {c : Char} {w : Text} (h : lookalike? c = some w) :
    isOutside c = true :=
  (isOutside_lookalikes _ (mem_lookalikes h)).1

theorem isOutside_of_mem_lookalike? {c d : Char} {w : Text} (h : lookalike? c = some w)
    (hd : d ∈ w) : isOutside d = false :=
  Bool.eq_false_iff.2 (List.any_eq_false.1 (isOutside_lookalikes _ (mem_lookalikes h)).2 d hd)

/-- A character of the alphabets has no lookalike. -/
theorem lookalike?_of_inside {c : Char} (h : isOutside c = false) : lookalike? c = none := by
  cases hc : lookalike? c with
  | none => rfl
  | some w =>
    rw [isOutside_of_lookalike? hc] at h
    cases h

/-! ## Single characters -/

/-- A character without a lookalike is measured as it is. -/
theorem replaceLookalike_of_none {c : Char} (h : lookalike? c = none) :
    replaceLookalike c = [c] := by
  rw [replaceLookalike, h, Option.getD_none]

/-- A character of the alphabets is sent as it is. -/
theorem downgradeCharacter_of_inside {c : Char} (h : isOutside c = false) :
    downgradeCharacter c = [c] := by
  rw [downgradeCharacter, lookalike?_of_inside h]
  simp [isSendable, h]

/-- A character takes as many characters when it is sent as when it is measured. -/
theorem length_downgradeCharacter (c : Char) :
    (downgradeCharacter c).length = (replaceLookalike c).length := by
  rw [downgradeCharacter, replaceLookalike]
  cases lookalike? c with
  | some w => rfl
  | none =>
    show (if isSendable c then [c] else ['?']).length = [c].length
    split <;> rfl

/-- A character measured within the alphabets is sent as it is measured. -/
theorem downgradeCharacter_of_measured {c : Char}
    (h : ∀ d ∈ replaceLookalike c, isOutside d = false) :
    downgradeCharacter c = replaceLookalike c := by
  cases hc : lookalike? c with
  | some w => rw [downgradeCharacter, replaceLookalike, hc, Option.getD_some]
  | none =>
    rw [replaceLookalike_of_none hc] at h ⊢
    exact downgradeCharacter_of_inside (h c (List.mem_singleton_self c))

/-! ## Whole texts -/

@[simp] theorem downgrade_append (t u : Text) :
    downgrade (t ++ u) = downgrade t ++ downgrade u :=
  List.flatMap_append

/-- A text of characters that are kept is sent as it is. -/
theorem downgrade_of_kept {t : Text} (h : ∀ c ∈ t, downgradeCharacter c = [c]) :
    downgrade t = t := by
  unfold downgrade
  rw [List.flatMap_congr h, List.flatMap_singleton']

/-- A text of the alphabets is sent as it is. -/
theorem downgrade_of_inside {t : Text} (h : ∀ c ∈ t, isOutside c = false) :
    downgrade t = t :=
  downgrade_of_kept fun c hc => downgradeCharacter_of_inside (h c hc)

/-- A text without typographic characters is measured as it is. -/
theorem replaceLookalikes_of_none {t : Text} (h : ∀ c ∈ t, isTypographic c = false) :
    replaceLookalikes t = t := by
  have hnone : ∀ c ∈ t, replaceLookalike c = [c] := by
    intro c hc
    have htypographic := h c hc
    rw [isTypographic, Option.isSome_eq_false_iff, Option.isNone_iff_eq_none] at htypographic
    exact replaceLookalike_of_none htypographic
  unfold replaceLookalikes
  rw [List.flatMap_congr hnone, List.flatMap_singleton']

/-- **Characters.**  The text sent has as many characters as the text measured. -/
theorem length_downgrade (t : Text) : (downgrade t).length = (replaceLookalikes t).length := by
  unfold downgrade replaceLookalikes
  rw [List.length_flatMap, List.length_flatMap]
  congr 1
  apply List.map_congr_left
  intro c _
  exact length_downgradeCharacter c

/-- A text measured within the alphabets is sent as it is measured. -/
theorem downgrade_of_measured {t : Text} (h : ∀ d ∈ replaceLookalikes t, isOutside d = false) :
    downgrade t = replaceLookalikes t := by
  unfold downgrade replaceLookalikes
  apply List.flatMap_congr
  intro c hc
  apply downgradeCharacter_of_measured
  intro d hd
  exact h d (List.mem_flatMap.2 ⟨c, hc, hd⟩)

/-- **Lengths.**  A text that is sent behind a name stays within what is
measured, where the name is not downgraded, as long as downgrading makes the
name no longer. -/
theorem Length.ofText_downgrade_within (name t : Text)
    (hname : (downgrade name).length ≤ name.length) :
    (Length.ofText (downgrade (name ++ t))).Within
      (Length.ofText (name ++ replaceLookalikes t)) := by
  refine Length.ofText_within ?_ fun hgsm => ?_
  · rw [downgrade_append, List.length_append, List.length_append, length_downgrade t]
    omega
  · -- within the alphabets nothing is left to downgrade, in the name or the text
    have hinside := ofText_eq_gsm7_iff.1 hgsm
    have hsame : downgrade (name ++ t) = name ++ replaceLookalikes t := by
      rw [downgrade_append,
        downgrade_of_inside fun c hc => hinside c (List.mem_append_left _ hc),
        downgrade_of_measured fun c hc => hinside c (List.mem_append_right _ hc)]
    rw [hsame]
    exact ⟨hgsm, Nat.le_refl _⟩

/-! ## What the replacement does to a length -/

/-- How one character changes in length. -/
theorem length_replaceLookalike (c : Char) :
    (replaceLookalike c).length + (if isWidthless c then 1 else 0)
      = 1 + 2 * (if c = '…' then 1 else 0) := by
  rw [replaceLookalike, isWidthless]
  cases hc : lookalike? c with
  | none =>
    -- the ellipsis has a lookalike, so this is another character
    have hellipsis : c ≠ '…' := by
      rintro rfl
      cases hc
    rw [if_neg hellipsis]
    rfl
  | some w =>
    have htable := length_lookalikes _ (mem_lookalikes hc)
    rw [Option.getD_some, ← htable]
    cases w <;> rfl

/-- **Replacement.**  Each ellipsis adds two characters and each character of
no width takes one away. -/
theorem length_replaceLookalikes (t : Text) :
    (replaceLookalikes t).length + t.countP isWidthless = t.length + 2 * t.count '…' := by
  induction t with
  | nil => rfl
  | cons c rest ih =>
    have hone := length_replaceLookalike c
    rw [replaceLookalikes, List.flatMap_cons, ← replaceLookalikes, List.length_append,
      List.countP_cons, List.count_cons, List.length_cons]
    simp only [beq_iff_eq]
    omega

/-- A text with normal spacing has no characters of no width. -/
theorem countP_isWidthless_of_staysInLines {t : Text} (h : ∀ c ∈ t, staysInLines c = true) :
    t.countP isWidthless = 0 := by
  rw [List.countP_eq_zero]
  intro c hc hwidthless
  rw [isWidthless, beq_iff_eq] at hwidthless
  have habsent := staysInLines_lookalikes _ (mem_lookalikes hwidthless) rfl
  rw [h c hc] at habsent
  cases habsent

/-! ## Texts measured as they are -/

/-- A text whose length does not change when its typographic characters are
replaced: it has none, or another character forces it into UCS-2 anyway and
no ellipsis grows. -/
def MeasuredAsIs (t : Text) : Prop :=
  (∀ c ∈ t, isTypographic c = false)
    ∨ ((∃ c ∈ t, isOutside c = true ∧ isTypographic c = false) ∧ '…' ∉ t)

/-- A measured text needs UCS-2 exactly when a character outside the alphabets
has no lookalike. -/
theorem ofText_replaceLookalikes_eq_ucs2_iff {t : Text} :
    Encoding.ofText (replaceLookalikes t) = .ucs2
      ↔ ∃ c ∈ t, isOutside c = true ∧ isTypographic c = false := by
  rw [ofText_eq_ucs2_iff]
  constructor
  · -- what is outside after the replacement was not written by it
    rintro ⟨d, hd, hout⟩
    obtain ⟨c, hc, hdc⟩ := List.mem_flatMap.1 hd
    cases hlook : lookalike? c with
    | some w =>
      rw [replaceLookalike, hlook, Option.getD_some] at hdc
      rw [isOutside_of_mem_lookalike? hlook hdc] at hout
      cases hout
    | none =>
      rw [replaceLookalike_of_none hlook, List.mem_singleton] at hdc
      subst hdc
      exact ⟨d, hc, hout, by rw [isTypographic, hlook]; rfl⟩
  · rintro ⟨c, hc, hout, hplain⟩
    rw [isTypographic, Option.isSome_eq_false_iff, Option.isNone_iff_eq_none] at hplain
    refine ⟨c, List.mem_flatMap.2 ⟨c, hc, ?_⟩, hout⟩
    rw [replaceLookalike_of_none hplain]
    exact List.mem_singleton_self c

/-- A text with a typographic character needs UCS-2. -/
theorem ofText_eq_ucs2_of_isTypographic {t : Text} {c : Char} (hc : c ∈ t)
    (h : isTypographic c = true) : Encoding.ofText t = .ucs2 := by
  obtain ⟨w, hw⟩ := Option.isSome_iff_exists.1 h
  exact ofText_eq_ucs2_iff.2 ⟨c, hc, isOutside_of_lookalike? hw⟩

/-- **Measuring.**  Replacing the typographic characters of a text with normal
spacing keeps its encoding and units exactly for the texts measured as they are. -/
theorem ofText_replaceLookalikes_eq_iff {t : Text} (ht : ∀ c ∈ t, staysInLines c = true) :
    ((Length.ofText (replaceLookalikes t)).encoding = (Length.ofText t).encoding
        ∧ (Length.ofText (replaceLookalikes t)).units = (Length.ofText t).units)
      ↔ MeasuredAsIs t := by
  by_cases hnone : ∀ c ∈ t, isTypographic c = false
  · rw [replaceLookalikes_of_none hnone]
    exact ⟨fun _ => Or.inl hnone, fun _ => ⟨rfl, rfl⟩⟩
  · have hwidth := length_replaceLookalikes t
    rw [countP_isWidthless_of_staysInLines ht, Nat.add_zero] at hwidth
    have hellipsis : t.count '…' = 0 ↔ '…' ∉ t := List.count_eq_zero
    simp only [not_forall, Bool.not_eq_false] at hnone
    obtain ⟨c, hc, htypographic⟩ := hnone
    have hucs := ofText_eq_ucs2_of_isTypographic hc htypographic
    cases hencoding : Encoding.ofText (replaceLookalikes t) with
    | gsm7 =>
      -- only typographic characters were outside: the encoding changes
      simp only [Length.ofText, hucs, hencoding]
      refine ⟨fun h => absurd h.1 (by decide), ?_⟩
      rintro (hplain | ⟨hforced, -⟩)
      · rw [hplain c hc] at htypographic
        cases htypographic
      · rw [ofText_replaceLookalikes_eq_ucs2_iff.2 hforced] at hencoding
        cases hencoding
    | ucs2 =>
      -- units are characters on both sides, and only ellipses change their number
      simp only [Length.ofText, hucs, hencoding]
      constructor
      · rintro ⟨-, hlength⟩
        exact Or.inr ⟨ofText_replaceLookalikes_eq_ucs2_iff.1 hencoding, hellipsis.1 (by omega)⟩
      · rintro (hplain | ⟨-, habsent⟩)
        · rw [hplain c hc] at htypographic
          cases htypographic
        · have := hellipsis.2 habsent
          exact ⟨trivial, by omega⟩

/-- A text whose measured form fits the capacity of a broadcast fits it itself
exactly if it has no typographic character or no more characters than UCS-2 holds. -/
theorem le_broadcastCapacity_iff {t : Text}
    (h : (Length.ofText (replaceLookalikes t)).units
      ≤ (Length.ofText (replaceLookalikes t)).encoding.broadcastCapacity) :
    (Length.ofText t).units ≤ (Length.ofText t).encoding.broadcastCapacity
      ↔ (∀ c ∈ t, isTypographic c = false)
        ∨ t.length ≤ Encoding.ucs2.broadcastCapacity := by
  by_cases hnone : ∀ c ∈ t, isTypographic c = false
  · rw [replaceLookalikes_of_none hnone] at h
    exact ⟨fun _ => Or.inl hnone, fun _ => h⟩
  · have hucs : Encoding.ofText t = .ucs2 := by
      simp only [not_forall, Bool.not_eq_false] at hnone
      obtain ⟨c, hc, htypographic⟩ := hnone
      exact ofText_eq_ucs2_of_isTypographic hc htypographic
    simp only [Length.ofText, hucs, hnone, false_or]

/-! ## Spacing -/

/-- Spacing with a lookalike is replaced by a space, or dropped if it is
unsupported; the lookalikes of all other characters are words. -/
theorem spacing_lookalikes :
    ∀ p ∈ lookalikes, if isSpacing p.1 then p.2 = if isUnsupported p.1 then [] else [' ']
      else p.2 ≠ [] ∧ p.2.any isSpacing = false := by
  decide

/-- The lookalike of a character of the spacing is a space or nothing. -/
theorem lookalike_of_isSpacing {c : Char} {w : Text} (hlook : lookalike? c = some w)
    (hc : isSpacing c = true) : w = if isUnsupported c then [] else [' '] := by
  have htable := spacing_lookalikes _ (mem_lookalikes hlook)
  rwa [if_pos hc] at htable

/-- The question mark is outside the spacing. -/
theorem isSpacing_questionMark : isSpacing '?' = false := by
  decide

/-- A character as it can be sent, where spacing is kept as it is. -/
def sendableWord (c : Char) : Text :=
  if isSpacing c then [c] else downgradeCharacter c

theorem keepsSpacing_sendableWord : KeepsSpacing sendableWord := by
  constructor
  · intro c hc
    rw [sendableWord, if_pos hc]
  · intro c hc
    rw [sendableWord, if_neg (by rw [hc]; exact Bool.false_ne_true), downgradeCharacter]
    cases hlook : lookalike? c with
    | some w =>
      have htable := spacing_lookalikes _ (mem_lookalikes hlook)
      rw [if_neg (by rw [hc]; exact Bool.false_ne_true)] at htable
      exact ⟨htable.1, fun d hd => Bool.eq_false_iff.2 (List.any_eq_false.1 htable.2 d hd)⟩
    | none =>
      show (if isSendable c then [c] else ['?']) ≠ []
        ∧ ∀ d ∈ (if isSendable c then [c] else ['?']), isSpacing d = false
      split
      · simp [hc]
      · simp [isSpacing_questionMark]

/-- The space and the line feed are sent as they are. -/
theorem downgradeCharacter_of_staysInLines {c : Char} (h : staysInLines c = true) :
    downgradeCharacter c = sendableWord c := by
  simp only [staysInLines, Bool.or_eq_true, beq_iff_eq, Bool.not_eq_true'] at h
  rcases h with (rfl | rfl) | hc
  · decide
  · decide
  · rw [sendableWord, if_neg (by rw [hc]; exact Bool.false_ne_true)]

/-- **Lines.**  What is sent of a text with normalised lines has normalised
lines too: it is what is sent of the text, normalised afterwards, where the
spacing was kept until then. -/
theorem downgrade_normaliseLines (t : Text) :
    downgrade (normaliseLines t) = normaliseLines (t.flatMap sendableWord) := by
  rw [normaliseLines_flatMap keepsSpacing_sendableWord]
  unfold downgrade
  apply List.flatMap_congr
  intro c hc
  exact downgradeCharacter_of_staysInLines (staysInLines_of_mem_normaliseLines c hc)

end MessageTemplate.Gsm

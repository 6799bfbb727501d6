/-
# Comparing lengths

A message that needs GSM-7 may have more units than one of as many characters
that needs UCS-2, and still it never needs more room: every capacity of GSM-7
is at least twice that of UCS-2, and no character takes more than two units.

`Length.Within` is this comparison.  A length within another needs no more
parts (`Length.Within.smsParts_le`, `Length.Within.broadcastParts_le`) and fits
wherever the other fits (`Length.Within.le_broadcastCapacity`).  A text of which
something is left out has a length within that of the whole
(`Length.ofText_within_of_sublist`).
-/
import Mathlib
import MessageTemplate.Gsm.Length

namespace MessageTemplate.Gsm

/-! ## Encodings of texts -/

/-- A text needs GSM-7 alone exactly when all its characters are in the alphabets. -/
theorem ofText_eq_gsm7_iff {t : Text} :
    Encoding.ofText t = .gsm7 ↔ ∀ c ∈ t, isOutside c = false := by
  rw [Encoding.ofText]
  split
  · rename_i h
    obtain ⟨c, hc, hout⟩ := List.any_eq_true.1 h
    constructor
    · intro h'
      cases h'
    · intro h'
      rw [h' c hc] at hout
      cases hout
  · rename_i h
    rw [Bool.not_eq_true, List.any_eq_false] at h
    refine ⟨fun _ c hc => ?_, fun _ => rfl⟩
    exact Bool.eq_false_iff.2 (h c hc)

/-- A text needs UCS-2 exactly when one of its characters is in neither alphabet. -/
theorem ofText_eq_ucs2_iff {t : Text} :
    Encoding.ofText t = .ucs2 ↔ ∃ c ∈ t, isOutside c = true := by
  rw [Encoding.ofText, ← List.any_eq_true]
  split
  · rename_i h
    exact ⟨fun _ => h, fun _ => rfl⟩
  · rename_i h
    constructor
    · intro h'
      cases h'
    · intro h'
      exact absurd h' h

/-! ## Units -/

/-- The units of a text are the sum of those of its characters. -/
theorem gsmUnits_eq_sum (t : Text) :
    gsmUnits t = (t.map fun c => (classify c).units).sum := by
  have held : ∀ (t : Text) (n : Nat), t.foldl (fun n c => n + (classify c).units) n
      = n + (t.map fun c => (classify c).units).sum := by
    intro t
    induction t with
    | nil => intro n; rfl
    | cons c rest ih =>
      intro n
      rw [List.foldl_cons, ih, List.map_cons, List.sum_cons, Nat.add_assoc]
  rw [gsmUnits, held, Nat.zero_add]

theorem gsmUnits_cons (c : Char) (t : Text) :
    gsmUnits (c :: t) = (classify c).units + gsmUnits t := by
  rw [gsmUnits_eq_sum, gsmUnits_eq_sum, List.map_cons, List.sum_cons]

/-- No character takes more than two units. -/
theorem gsmUnits_le (t : Text) : gsmUnits t ≤ 2 * t.length := by
  induction t with
  | nil => exact Nat.le_refl 0
  | cons c rest ih =>
    have hunits : (classify c).units ≤ 2 := by
      cases classify c <;> decide
    rw [gsmUnits_cons, List.length_cons]
    omega

/-- Whether a character takes two units in GSM-7. -/
def isExtended (c : Char) : Bool :=
  classify c == .extended

/-- A character takes one unit, and an extended one another. -/
theorem units_classify (c : Char) :
    (classify c).units = 1 + if isExtended c then 1 else 0 := by
  rw [isExtended]
  cases classify c <;> rfl

/-- The units of a text are its characters and, once more, the extended ones. -/
theorem gsmUnits_eq (t : Text) : gsmUnits t = t.length + t.countP isExtended := by
  induction t with
  | nil => rfl
  | cons c rest ih =>
    rw [gsmUnits_cons, units_classify, ih, List.length_cons, List.countP_cons]
    omega

/-- Without further characters a length is as it was. -/
@[simp] theorem Length.add_zero (length : Length) : length.add 0 = length := rfl

/-! ## Parts -/

/-- A number of pieces holds the units exactly when it is at least the least one. -/
theorem ceilDiv_le_iff {units size k : Nat} (h : 0 < size) :
    ceilDiv units size ≤ k ↔ units ≤ k * size := by
  have hsplit : size * (units / size) + units % size = units := Nat.div_add_mod units size
  have hlt : units % size < size := Nat.mod_lt units h
  -- the pieces that are full do not decide, only what is left behind them
  rw [ceilDiv]
  constructor
  · intro hk
    have hmul := Nat.mul_le_mul_left size hk
    rw [Nat.mul_add] at hmul
    rw [Nat.mul_comm k size]
    split at hmul
    · omega
    · rw [Nat.mul_one] at hmul
      omega
  · intro hk
    split
    · rw [Nat.add_zero]
      exact Nat.div_le_of_le_mul (by rwa [Nat.mul_comm])
    · rename_i hrem
      rw [Nat.add_one_le_iff]
      refine Nat.lt_of_mul_lt_mul_left (a := size) ?_
      rw [Nat.mul_comm size k]
      omega

/-- The least number of pieces holds the units. -/
theorem le_ceilDiv_mul (units : Nat) {size : Nat} (h : 0 < size) :
    units ≤ ceilDiv units size * size :=
  (ceilDiv_le_iff h).1 (Nat.le_refl _)

/-- Every part of a text message holds something. -/
theorem Encoding.concatenated_pos (e : Encoding) : 0 < e.partCapacity.concatenated := by
  cases e <;> decide

/-- Every broadcast may have some units. -/
theorem Encoding.broadcastCapacity_pos (e : Encoding) : 0 < e.broadcastCapacity := by
  cases e <;> decide

/-- A text message needs at least one part. -/
theorem one_le_smsParts (units : Nat) (e : Encoding) : 1 ≤ smsParts units e := by
  rw [smsParts]
  split
  · exact Nat.le_refl 1
  · rename_i h
    -- with no parts at all there would be no units, and these fit one part
    refine Nat.pos_of_ne_zero fun hzero => h ?_
    have hnone := (ceilDiv_le_iff e.concatenated_pos).1 (Nat.le_of_eq hzero)
    rw [Nat.zero_mul] at hnone
    exact Nat.le_trans hnone (Nat.zero_le _)

/-- A message that fits wherever another fits needs no more parts than that one. -/
theorem smsParts_le_smsParts {units units' : Nat} {e e' : Encoding}
    (hsingle : units' ≤ e'.partCapacity.single → units ≤ e.partCapacity.single)
    (hparts : ∀ k, units' ≤ k * e'.partCapacity.concatenated
      → units ≤ k * e.partCapacity.concatenated) :
    smsParts units e ≤ smsParts units' e' := by
  by_cases h : units ≤ e.partCapacity.single
  · rw [smsParts, if_pos h]
    exact one_le_smsParts units' e'
  · rw [smsParts, if_neg h, smsParts, if_neg fun h' => h (hsingle h'),
      ceilDiv_le_iff e.concatenated_pos]
    exact hparts _ (le_ceilDiv_mul units' e'.concatenated_pos)

/-- A broadcast that fits into any number of capacities into which another
fits needs no more of them. -/
theorem broadcastParts_le_broadcastParts {units units' : Nat} {e e' : Encoding}
    (hparts : ∀ k, units' ≤ k * e'.broadcastCapacity → units ≤ k * e.broadcastCapacity) :
    broadcastParts units e ≤ broadcastParts units' e' := by
  have hceil : ceilDiv units e.broadcastCapacity ≤ ceilDiv units' e'.broadcastCapacity := by
    rw [ceilDiv_le_iff e.broadcastCapacity_pos]
    exact hparts _ (le_ceilDiv_mul units' e'.broadcastCapacity_pos)
  unfold broadcastParts
  omega

/-- A broadcast needs more than one capacity exactly when it exceeds the first. -/
theorem two_le_broadcastParts_iff {units : Nat} {e : Encoding} :
    2 ≤ broadcastParts units e ↔ e.broadcastCapacity < units := by
  have hone : ceilDiv units e.broadcastCapacity ≤ 1 ↔ units ≤ e.broadcastCapacity := by
    rw [ceilDiv_le_iff e.broadcastCapacity_pos, Nat.one_mul]
  unfold broadcastParts
  omega

/-! ## Lengths within one another -/

/-- A length stays within another: in the same encoding it has no more units,
and in GSM-7 no more than twice the units of a length in UCS-2. -/
def Length.Within (length other : Length) : Prop :=
  (length.encoding = other.encoding ∧ length.units ≤ other.units)
    ∨ (length.encoding = .gsm7 ∧ other.encoding = .ucs2 ∧ length.units ≤ 2 * other.units)

namespace Length.Within

variable {length other : Length}

/-- **Capacities.**  Where the capacity of GSM-7 is at least twice that of
UCS-2, a length within another fits wherever that one fits. -/
theorem le_mul (h : length.Within other) (capacity : Encoding → Nat)
    (hcapacity : 2 * capacity .ucs2 ≤ capacity .gsm7) {k : Nat}
    (hk : other.units ≤ k * capacity other.encoding) :
    length.units ≤ k * capacity length.encoding := by
  rcases h with ⟨hsame, hle⟩ | ⟨hgsm, hucs, hle⟩
  · rw [hsame]
    exact Nat.le_trans hle hk
  · rw [hucs] at hk
    rw [hgsm]
    calc length.units
        ≤ 2 * (k * capacity .ucs2) := Nat.le_trans hle (Nat.mul_le_mul_left 2 hk)
      _ = k * (2 * capacity .ucs2) := Nat.mul_left_comm ..
      _ ≤ k * capacity .gsm7 := Nat.mul_le_mul_left k hcapacity

/-- A text message within another needs no more parts. -/
theorem smsParts_le (h : length.Within other) :
    smsParts length.units length.encoding ≤ smsParts other.units other.encoding := by
  apply smsParts_le_smsParts
  · intro hone
    have hfit := h.le_mul (fun e => e.partCapacity.single) (by decide) (k := 1)
      (by rwa [Nat.one_mul])
    rwa [Nat.one_mul] at hfit
  · intro k hk
    exact h.le_mul (fun e => e.partCapacity.concatenated) (by decide) hk

/-- A broadcast within another needs no more capacities. -/
theorem broadcastParts_le (h : length.Within other) :
    broadcastParts length.units length.encoding ≤ broadcastParts other.units other.encoding := by
  apply broadcastParts_le_broadcastParts
  intro k hk
  exact h.le_mul Encoding.broadcastCapacity (by decide) hk

/-- A length stays within another when both get as many further characters. -/
theorem add (h : length.Within other) (n : Nat) : (length.add n).Within (other.add n) := by
  rcases h with ⟨hsame, hle⟩ | ⟨hgsm, hucs, hle⟩
  · exact Or.inl ⟨hsame, Nat.add_le_add_right hle n⟩
  · refine Or.inr ⟨hgsm, hucs, ?_⟩
    show length.units + n ≤ 2 * (other.units + n)
    omega

/-- A broadcast within one that fits its capacity fits its own. -/
theorem le_broadcastCapacity (h : length.Within other)
    (hfit : other.units ≤ other.encoding.broadcastCapacity) :
    length.units ≤ length.encoding.broadcastCapacity := by
  have hone := h.le_mul Encoding.broadcastCapacity (by decide) (k := 1) (by rwa [Nat.one_mul])
  rwa [Nat.one_mul] at hone

/-- A broadcast is too long if one within it is. -/
theorem broadcastCapacity_lt (h : length.Within other)
    (hexceeds : length.encoding.broadcastCapacity < length.units) :
    other.encoding.broadcastCapacity < other.units :=
  Nat.lt_of_not_le fun hfits => Nat.not_le_of_lt hexceeds (h.le_broadcastCapacity hfits)

end Length.Within

/-- **Texts.**  A text with no more characters than another, which stays in
GSM-7 with no more units if the other is in GSM-7, has a length within the
length of the other. -/
theorem Length.ofText_within {t u : Text} (hlength : t.length ≤ u.length)
    (hgsm : Encoding.ofText u = .gsm7 → Encoding.ofText t = .gsm7 ∧ gsmUnits t ≤ gsmUnits u) :
    (Length.ofText t).Within (Length.ofText u) := by
  cases hu : Encoding.ofText u with
  | gsm7 =>
    obtain ⟨ht, hunits⟩ := hgsm hu
    left
    simp only [Length.ofText, ht, hu]
    exact ⟨trivial, hunits⟩
  | ucs2 =>
    cases ht : Encoding.ofText t with
    | gsm7 =>
      -- the units at most double, and no other case needs that
      right
      have := gsmUnits_le t
      simp only [Length.ofText, ht, hu]
      exact ⟨trivial, trivial, by omega⟩
    | ucs2 =>
      left
      simp only [Length.ofText, ht, hu]
      exact ⟨trivial, hlength⟩

/-- **Parts of texts.**  A text of which something is left out has a length
within that of the whole. -/
theorem Length.ofText_within_of_sublist {t u : Text} (h : t.Sublist u) :
    (Length.ofText t).Within (Length.ofText u) := by
  refine Length.ofText_within h.length_le fun hgsm => ?_
  have hinside := ofText_eq_gsm7_iff.1 hgsm
  refine ⟨ofText_eq_gsm7_iff.2 fun c hc => hinside c (h.subset hc), ?_⟩
  rw [gsmUnits_eq, gsmUnits_eq]
  exact Nat.add_le_add h.length_le h.countP_le

end MessageTemplate.Gsm

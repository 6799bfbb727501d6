/-
# Texts that can be sent

A character can be sent as it is when it may stand in a text message and is not
typographic.  Downgrading writes nothing but such characters
(`canBeSent_of_mem_downgrade`) and keeps those that are there
(`downgradeCharacter_of_canBeSent`), so that it is a projection onto the texts
of such characters (`downgrade_projects`).  Lookalikes may have been replaced
before: that changes neither the text sent nor the number of its characters.
-/
import MessageTemplate.Proofs.Downgrade

namespace MessageTemplate.Gsm

/-! ## Single characters -/

/-- Whether a character can be sent as it is. -/
def CanBeSent (c : Char) : Prop :=
  isSendable c = true ∧ isTypographic c = false

/-- No Welsh letter is typographic. -/
theorem any_isTypographic_welshLetters : welshLetters.any isTypographic = false := by
  cbv

/-- What may stand in a text message is not typographic. -/
theorem canBeSent_of_isSendable {c : Char} (h : isSendable c = true) : CanBeSent c := by
  refine ⟨h, ?_⟩
  rw [isSendable, Bool.or_eq_true, Bool.not_eq_true'] at h
  rcases h with hinside | hwelsh
  · rw [isTypographic, lookalike?_of_inside hinside, Option.isSome_none]
  · have hnone := List.any_eq_false.1 any_isTypographic_welshLetters
    exact Bool.eq_false_iff.2 (hnone c (List.contains_iff_mem.1 hwelsh))

/-- The characters of the alphabets can be sent. -/
theorem canBeSent_of_inside {c : Char} (h : isOutside c = false) : CanBeSent c := by
  apply canBeSent_of_isSendable
  rw [isSendable, h, Bool.not_false, Bool.true_or]

/-- A character that can be sent is sent as it is. -/
theorem downgradeCharacter_of_canBeSent {c : Char} (h : CanBeSent c) :
    downgradeCharacter c = [c] := by
  have hnone : lookalike? c = none := by
    rw [← Option.isNone_iff_eq_none, ← Option.isSome_eq_false_iff]
    exact h.2
  rw [downgradeCharacter, hnone]
  exact if_pos h.1

/-- What is written for a character can be sent. -/
theorem canBeSent_of_mem_downgradeCharacter {c d : Char} (h : d ∈ downgradeCharacter c) :
    CanBeSent d := by
  rw [downgradeCharacter] at h
  cases hc : lookalike? c with
  | some w =>
    rw [hc] at h
    exact canBeSent_of_inside (isOutside_of_mem_lookalike? hc h)
  | none =>
    rw [hc] at h
    replace h : d ∈ if isSendable c then [c] else ['?'] := h
    split at h
    · rename_i hsendable
      rw [List.mem_singleton.1 h]
      exact canBeSent_of_isSendable hsendable
    · rw [List.mem_singleton.1 h]
      exact canBeSent_of_inside (by decide)

/-- A character whose lookalike was written is sent as it would have been. -/
theorem downgrade_replaceLookalike (c : Char) :
    downgrade (replaceLookalike c) = downgradeCharacter c := by
  cases hc : lookalike? c with
  | some w =>
    rw [replaceLookalike, downgradeCharacter, hc, Option.getD_some]
    exact downgrade_of_inside fun d hd => isOutside_of_mem_lookalike? hc hd
  | none =>
    rw [replaceLookalike_of_none hc]
    exact List.flatMap_singleton ..

/-! ## Whole texts -/

/-- What is sent of a text can be sent. -/
theorem canBeSent_of_mem_downgrade {t : Text} {d : Char} (h : d ∈ downgrade t) : CanBeSent d := by
  obtain ⟨c, -, hd⟩ := List.mem_flatMap.1 h
  exact canBeSent_of_mem_downgradeCharacter hd

/-- A text that can be sent is sent as it is. -/
theorem downgrade_of_canBeSent {t : Text} (h : ∀ c ∈ t, CanBeSent c) : downgrade t = t :=
  downgrade_of_kept fun c hc => downgradeCharacter_of_canBeSent (h c hc)

/-- A text is sent the same with lookalikes for its typographic characters. -/
theorem downgrade_replaceLookalikes (t : Text) :
    downgrade (replaceLookalikes t) = downgrade t := by
  calc downgrade (replaceLookalikes t)
      = t.flatMap fun c => downgrade (replaceLookalike c) := List.flatMap_assoc ..
    _ = downgrade t := List.flatMap_congr fun c _ => downgrade_replaceLookalike c

/-- **Projection.**  Every character that is sent may stand in a text message and
is not typographic.  Exactly the texts of such characters are sent as they are,
so that nothing is downgraded twice.  Replacing the typographic characters
beforehand makes no difference to the text sent, and already gives as many
characters. -/
theorem downgrade_projects (t : Text) :
    (∀ c ∈ downgrade t, isSendable c = true ∧ isTypographic c = false)
      ∧ (downgrade t = t ↔ ∀ c ∈ t, isSendable c = true ∧ isTypographic c = false)
      ∧ downgrade (downgrade t) = downgrade t
      ∧ downgrade (replaceLookalikes t) = downgrade t
      ∧ (downgrade t).length = (replaceLookalikes t).length := by
  have hsent : ∀ c ∈ downgrade t, CanBeSent c := fun _ hc => canBeSent_of_mem_downgrade hc
  refine ⟨hsent, ⟨fun hself => ?_, downgrade_of_canBeSent⟩, downgrade_of_canBeSent hsent,
    downgrade_replaceLookalikes t, length_downgrade t⟩
  rw [hself] at hsent
  exact hsent

end MessageTemplate.Gsm

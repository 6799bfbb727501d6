/-
# Empty messages

Text messages and broadcasts are empty when nothing is measured: no character
of the body with its placeholders left out, and no placeholder that is shown as
missing.  Emails are empty when no character of the body in plain text is left.
Both say that the personalised text is all spacing
(`Draft.measured_characters_eq_zero_iff`), so every kind of message made of one
content is empty or none is.
-/
import MessageTemplate.Message.Basic
import MessageTemplate.Proofs.Body
import MessageTemplate.Proofs.NormalForm

namespace MessageTemplate

namespace Gsm

/-- Lookalikes leave nothing of a text with normalised lines only if it was empty. -/
theorem length_replaceLookalikes_eq_zero_iff {t : Text} (h : ∀ c ∈ t, staysInLines c = true) :
    (replaceLookalikes t).length = 0 ↔ t = [] := by
  have hlength := length_replaceLookalikes t
  rw [countP_isWidthless_of_staysInLines h, Nat.add_zero] at hlength
  rw [hlength, ← List.length_eq_zero_iff]
  constructor
  · intro hzero
    omega
  · intro hempty
    have hcount : t.count '…' ≤ t.length := List.count_le_length
    omega

end Gsm

namespace Draft

variable (d : Draft)

/-- A placeholder that is shown as missing leaves its brackets in the text. -/
theorem bracket_mem_personalisedText (h : d.unresolved ≠ 0) : '(' ∈ d.personalisedText := by
  have hcount : d.plainSubstitution.unresolvedCount d.values d.spec.content ≠ 0 := h
  rw [Ne, Substitution.unresolvedCount_eq_zero_iff, not_or] at hcount
  obtain ⟨hredact, hmissing⟩ := hcount
  obtain ⟨name, hname⟩ := List.exists_mem_of_ne_nil _ hmissing
  apply Substitution.missing_subset_render hname
  rw [Substitution.missing, if_neg hredact]
  exact List.mem_cons_self

/-- **Emptiness of the body.**  Nothing is left of the body in plain text
exactly when the personalised text is all spacing. -/
theorem plainBody_eq_nil_iff :
    d.plainBody = [] ↔ ∀ c ∈ d.personalisedText, isSpacing c = true :=
  normaliseLines_eq_nil_iff

/-- **Emptiness of the measured body.**  Nothing is measured exactly when the
personalised text is all spacing. -/
theorem measured_characters_eq_zero_iff :
    (Measured.ofDraft d).characters = 0 ↔ ∀ c ∈ d.personalisedText, isSpacing c = true := by
  by_cases h : d.unresolved = 0
  · -- nothing is left out, so the body in plain text is measured
    rw [← d.plainBody_eq_nil_iff, measured_eq h]
    exact Gsm.length_replaceLookalikes_eq_zero_iff staysInLines_of_mem_normaliseLines
  · -- a placeholder counts on the one side, and its bracket is no spacing on the other
    constructor
    · intro hzero
      have hpositive : d.unresolved ≤ (Measured.ofDraft d).characters := Nat.le_add_left ..
      omega
    · intro hspacing
      exact absurd (hspacing '(' (d.bracket_mem_personalisedText h)) (by decide)

end Draft

namespace Message

/-- A message of any kind is empty exactly when the personalised text is all spacing. -/
theorem isEmpty_eq_true_iff (m : Message) :
    m.isEmpty = true ↔ ∀ c ∈ m.draft.personalisedText, isSpacing c = true := by
  unfold isEmpty
  cases m.kind.channel with
  | sms | broadcast =>
    rw [← m.draft.measured_characters_eq_zero_iff]
    exact beq_iff_eq
  | email =>
    rw [← m.draft.plainBody_eq_nil_iff, ← List.length_eq_zero_iff]
    exact beq_iff_eq

/-- **Emptiness.**  Of one content, with whatever subject, every kind of message
can be made, and all of them are empty or none is.  They are empty exactly when
the content, written as plain text with its lists as bullets, holds nothing but
blanks and unsupported characters. -/
theorem kinds_share_emptiness (content : Text) (options : Options) (values : Personalisation) :
    let plain : Substitution :=
      { html := .passthrough, style := .plain, markdownLists := true,
        redactMissing := options.redactMissing }
    ∃ empty : Bool,
      (∀ (kind : Kind) (subject : Option Text), ∃ m,
        Message.build kind ⟨content, subject, kind.channel⟩ options values = .ok m
          ∧ m.isEmpty = empty)
      ∧ (empty = true ↔
        ∀ c ∈ plain.render values content, isBlank c = true ∨ isUnsupported c = true) := by
  intro plain
  let empty := (Message.mk .smsMessage ⟨⟨content, none, .sms⟩, options, values⟩).isEmpty
  refine ⟨empty, fun kind subject => ?_, ?_⟩
  · refine ⟨⟨kind, ⟨⟨content, subject, kind.channel⟩, options, values⟩⟩, ?_, ?_⟩
    · unfold Message.build
      exact if_pos rfl
    · -- neither the kind nor the subject has a part in the personalised text
      rw [Bool.eq_iff_iff, isEmpty_eq_true_iff, isEmpty_eq_true_iff]
      rfl
  · rw [isEmpty_eq_true_iff]
    apply forall₂_congr
    intro c _
    rw [isSpacing, Bool.or_eq_true]

end Message

end MessageTemplate

/-
# The preview on one line

The preview of a text message on one line is made ready to go out first and
put on one line afterwards, while the message has its lines normalised first.
A blank or unsupported character that cannot be sent, an em space for instance,
is a gap or nothing in the message and a question mark in the preview
(`Gsm.isLostSpacing`).  Without such characters the two orders agree
(`Gsm.normaliseWhitespace_downgrade`), and each one adds a question mark
(`Gsm.count_downgrade`), so the preview shows the words of the message exactly
if there is none.
-/
import MessageTemplate.Message.Basic
import MessageTemplate.Proofs.NormalForm
import MessageTemplate.Proofs.Preview

namespace MessageTemplate

/-! ## Spacing that cannot be sent -/

namespace Gsm

/-- Whether a character of the spacing cannot be sent and has no lookalike, so
that a question mark is sent for it. -/
def isLostSpacing (c : Char) : Bool :=
  isSpacing c && (lookalike? c).isNone && !isSendable c

/-- A character of the spacing is sent as a question mark, or it spaces words
in the same way when it is sent. -/
theorem wordPass_runFrom_downgradeCharacter {c : Char} (hc : isSpacing c = true)
    (hkept : isLostSpacing c = false) (gap : Gap) (t : Text) :
    wordPass.runFrom gap (downgradeCharacter c ++ t) = wordPass.runFrom gap (c :: t) := by
  cases hlook : lookalike? c with
  | some w =>
    have hword := lookalike_of_isSpacing hlook hc
    rw [downgradeCharacter, hlook]
    show wordPass.runFrom gap (w ++ t) = _
    cases hunsupported : isUnsupported c with
    | true =>
      -- dropped when it is sent, and dropped between words
      have hstep : wordPass.step gap c = (gap, []) := by simp [wordPass, hunsupported]
      rw [hunsupported, if_pos rfl] at hword
      rw [hword, Transducer.runFrom_cons, hstep]
      rfl
    | false =>
      -- a blank, sent as a space
      have hblank : isBlank c = true := by
        rw [isSpacing, hunsupported, Bool.or_false] at hc
        exact hc
      rw [hunsupported, if_neg Bool.false_ne_true] at hword
      rw [hword, List.singleton_append, wordPass_runFrom_blank hblank hunsupported,
        wordPass_runFrom_blank (by decide) (by decide)]
  | none =>
    have hsendable : isSendable c = true := by
      simpa [isLostSpacing, hc, hlook] using hkept
    rw [downgradeCharacter, hlook]
    show wordPass.runFrom gap ((if isSendable c then [c] else ['?']) ++ t) = _
    rw [if_pos hsendable, List.singleton_append]

/-- **One character.**  It spaces words, or is written, in the same way when it
is sent and when it is sent where spacing is kept. -/
theorem wordPass_runFrom_sendableWord {c : Char} (hkept : isLostSpacing c = false) (gap : Gap)
    (t : Text) :
    wordPass.runFrom gap (downgradeCharacter c ++ t)
      = wordPass.runFrom gap (sendableWord c ++ t) := by
  rw [sendableWord]
  split
  · rename_i hc
    exact wordPass_runFrom_downgradeCharacter hc hkept gap t
  · rfl

/-- **Words.**  A text all of whose spacing can be sent is sent with the words
it has where its spacing is kept. -/
theorem normaliseWhitespace_downgrade {t : Text} (h : ∀ c ∈ t, isLostSpacing c = false) :
    normaliseWhitespace (downgrade t) = normaliseWhitespace (t.flatMap sendableWord) := by
  have held : ∀ gap, wordPass.runFrom gap (downgrade t)
      = wordPass.runFrom gap (t.flatMap sendableWord) := by
    induction t with
    | nil =>
      intro gap
      rfl
    | cons c t ih =>
      have hrest := ih fun d hd => h d (List.mem_cons_of_mem c hd)
      intro gap
      rw [downgrade, List.flatMap_cons, List.flatMap_cons, ← downgrade,
        wordPass_runFrom_sendableWord (h c List.mem_cons_self)]
      -- the same steps are taken on both sides up to the rest of the text
      rw [Transducer.runFrom_append, Transducer.runFrom_append, hrest]
  exact held .start

/-! ## Question marks -/

/-- How many question marks one character adds when it is sent. -/
theorem count_downgradeCharacter (c : Char) :
    (downgradeCharacter c).count '?'
      = (sendableWord c).count '?' + if isLostSpacing c then 1 else 0 := by
  cases hc : isSpacing c with
  | false => simp [sendableWord, isLostSpacing, hc]
  | true =>
    have hself : (sendableWord c).count '?' = 0 := by
      rw [sendableWord, if_pos hc, List.count_eq_zero, List.mem_singleton]
      rintro rfl
      rw [isSpacing_questionMark] at hc
      cases hc
    rw [hself, downgradeCharacter]
    cases hlook : lookalike? c with
    | some w =>
      have hlost : isLostSpacing c = false := by simp [isLostSpacing, hlook]
      rw [hlost]
      show w.count '?' = 0
      rw [lookalike_of_isSpacing hlook hc]
      split <;> decide
    | none =>
      show (if isSendable c then [c] else ['?']).count '?' = _
      cases hsendable : isSendable c with
      | true =>
        have hword := hself
        rw [sendableWord, if_pos hc] at hword
        simp [isLostSpacing, hsendable, hword]
      | false => simp [isLostSpacing, hc, hlook, hsendable]

/-- **Question marks.**  Every character of spacing that is lost adds one to the
text that is sent. -/
theorem count_downgrade (t : Text) :
    (downgrade t).count '?' = (t.flatMap sendableWord).count '?' + t.countP isLostSpacing := by
  induction t with
  | nil => rfl
  | cons c t ih =>
    have hone := count_downgradeCharacter c
    rw [downgrade, List.flatMap_cons, ← downgrade, List.flatMap_cons, List.count_append,
      List.count_append, List.countP_cons]
    omega

end Gsm

/-- Texts with the same characters outside their spacing have each of these as often. -/
theorem count_eq_of_unspaced_eq {t u : Text} (h : unspaced t = unspaced u) {c : Char}
    (hc : isSpacing c = false) : t.count c = u.count c := by
  have hcount : ∀ v : Text, (unspaced v).count c = v.count c := by
    intro v
    unfold unspaced
    rw [List.count_filter]
    simp [hc]
  rw [← hcount t, ← hcount u, h]

/-- **Orders.**  A text sent and put on one line shows what it shows with its
lines normalised first, exactly if all of its spacing can be sent. -/
theorem Gsm.normaliseWhitespace_downgrade_iff {t : Text} :
    normaliseWhitespace (downgrade t) = normaliseWhitespace (downgrade (normaliseLines t))
      ↔ ∀ c ∈ t, isLostSpacing c = false := by
  rw [downgrade_normaliseLines, normaliseWhitespace_normaliseLines]
  constructor
  · intro h
    -- both sides have as many question marks
    have hunspaced : unspaced (downgrade t) = unspaced (t.flatMap sendableWord) := by
      rw [← unspaced_normaliseWhitespace, h, unspaced_normaliseWhitespace]
    have hmarks := count_eq_of_unspaced_eq hunspaced isSpacing_questionMark
    rw [count_downgrade] at hmarks
    have hnone : t.countP isLostSpacing = 0 := by omega
    intro c hc
    exact Bool.eq_false_iff.2 (List.countP_eq_zero.1 hnone c hc)
  · exact normaliseWhitespace_downgrade

/-! ## The preview and the message -/

namespace Draft

variable {d : Draft}

/-- Where no value is a list and what is missing is left out, the preview on
one line is the personalised text as it can be sent, put on one line and
written in markup. -/
theorem smsBodyPreview_eq (hredact : d.options.redactMissing = true)
    (hlists : ∀ entry ∈ d.values.entries, entry.2.items? = none) :
    d.smsBodyPreview = Html.escape (normaliseWhitespace (d.sendable d.personalisedText)) := by
  have hitems : ∀ name v, d.values.get? name = some v → v.items? = none := by
    intro name v hget
    obtain ⟨key, hentry⟩ := Personalisation.mem_entries_of_get? hget
    exact hlists (key, v) hentry
  let phrases : Substitution := { d.plainSubstitution with markdownLists := false }
  have hmarkup : Substitution.render { redactMissing := true } d.values d.spec.content
      = Html.escape (phrases.render d.values d.spec.content) := by
    apply Substitution.render_escape
    · rfl
    · rfl
    · rfl
    · show true = d.options.redactMissing
      rw [hredact]
    · exact Substitution.unresolvedCount_eq_zero_iff.2 (Or.inl hredact)
  have hplain : phrases.render d.values d.spec.content = d.personalisedText :=
    Substitution.render_markdownLists hitems
  show normaliseWhitespace (d.sendable
      (Substitution.render { redactMissing := true } d.values d.spec.content)) = _
  rw [hmarkup, hplain, sendable_escape, normaliseWhitespace_escape]

/-- Without a service name the message is the personalised text with its lines
normalised, as it can be sent. -/
theorem smsText_eq (hname : d.options.visibleServiceName = none) :
    d.smsText = d.sendable (normaliseLines d.personalisedText) := by
  rw [smsText, hname]
  rfl

/-- The personalised text sent and put on one line shows what it shows with its
lines normalised first, if it is sent as it is or all of its spacing can be
sent, and only then. -/
theorem normaliseWhitespace_sendable_iff (t : Text) :
    normaliseWhitespace (d.sendable t) = normaliseWhitespace (d.sendable (normaliseLines t))
      ↔ d.options.downgrade = false ∨ ∀ c ∈ t, Gsm.isLostSpacing c = false := by
  cases hdowngrade : d.options.downgrade with
  | false =>
    rw [sendable_of_not_downgrade hdowngrade, sendable_of_not_downgrade hdowngrade,
      normaliseWhitespace_normaliseLines]
    exact iff_of_true rfl (Or.inl rfl)
  | true =>
    rw [sendable_of_downgrade hdowngrade, sendable_of_downgrade hdowngrade,
      Gsm.normaliseWhitespace_downgrade_iff]
    simp

end Draft

namespace Message

/-- **The preview on one line.**  Without list values and without a service
name, and with missing values left out, it shows the words of the message
exactly if characters are sent as they are or no spacing in the personalised
text is lost when it is sent. -/
theorem body_preview_shows_words_iff (d : Draft) (hredact : d.options.redactMissing = true)
    (hname : d.options.visibleServiceName = none)
    (hlists : ∀ entry ∈ d.values.entries, entry.2.items? = none) :
    (Message.mk .smsBodyPreview d).rendered
        = Html.escape (normaliseWhitespace (Message.mk .smsMessage d).rendered)
      ↔ d.options.downgrade = false
        ∨ ∀ c ∈ d.plainSubstitution.render d.values d.spec.content,
          Gsm.isLostSpacing c = false := by
  have hpreview : (Message.mk .smsBodyPreview d).rendered
      = Html.escape (normaliseWhitespace (d.sendable d.personalisedText)) :=
    Draft.smsBodyPreview_eq hredact hlists
  have hmessage : (Message.mk .smsMessage d).rendered
      = d.sendable (normaliseLines d.personalisedText) := Draft.smsText_eq hname
  rw [hpreview, hmessage, Html.escape_injective.eq_iff]
  exact Draft.normaliseWhitespace_sendable_iff d.personalisedText

/-- Tabs, spaces that break no line and spaces of no width are in the preview what they
are in the message. -/
theorem body_preview_shows_spaced_words :
    let d : Draft := ⟨⟨"1 <\t\u00a0((name))\u200b\n\nb…((gone))".toList, none, .sms⟩,
      { redactMissing := true }, .ofList [("name".toList, .text "2 &".toList)]⟩
    d.options.redactMissing = true
      ∧ d.options.visibleServiceName = none
      ∧ (∀ entry ∈ d.values.entries, entry.2.items? = none)
      ∧ (Message.mk .smsMessage d).rendered = "1 < 2 &\n\nb...".toList
      ∧ (Message.mk .smsBodyPreview d).rendered
        = Html.escape (normaliseWhitespace (Message.mk .smsMessage d).rendered) := by
  intro d
  have hredact : d.options.redactMissing = true := rfl
  have hname : d.options.visibleServiceName = none := rfl
  have hlists : ∀ entry ∈ d.values.entries, entry.2.items? = none := by
    intro entry hentry
    have hall : d.values.entries.all fun entry => entry.2.items?.isNone := by decide
    simpa using List.all_eq_true.1 hall entry hentry
  have htext : d.personalisedText = "1 <\t\u00a02 &\u200b\n\nb…".toList := by cbv
  have hspacing : ∀ c ∈ d.personalisedText, Gsm.isLostSpacing c = false := by
    have hnone : d.personalisedText.any Gsm.isLostSpacing = false := by
      rw [htext]
      decide +kernel
    intro c hc
    exact Bool.eq_false_iff.2 (List.any_eq_false.1 hnone c hc)
  have hsent : (Message.mk .smsMessage d).rendered = "1 < 2 &\n\nb...".toList := by
    show d.smsText = _
    rw [Draft.smsText_eq hname, htext]
    decide +kernel
  refine ⟨hredact, hname, hlists, hsent, ?_⟩
  exact (body_preview_shows_words_iff d hredact hname hlists).2 (Or.inr hspacing)

/-- An em space is a gap in the message and a question mark in its preview. -/
theorem em_space_lost_in_body_preview :
    let d : Draft := ⟨⟨"a\u2003b".toList, none, .sms⟩, { redactMissing := true }, .empty⟩
    (∀ entry ∈ d.values.entries, entry.2.items? = none)
      ∧ d.options.redactMissing = true
      ∧ d.options.visibleServiceName = none
      ∧ (Message.mk .smsMessage d).rendered = "a b".toList
      ∧ (Message.mk .smsBodyPreview d).rendered = "a?b".toList
      ∧ (Message.mk .smsBodyPreview d).rendered
        ≠ Html.escape (normaliseWhitespace (Message.mk .smsMessage d).rendered) := by
  intro d
  have htext : d.personalisedText = "a\u2003b".toList := by cbv
  have hlists : ∀ entry ∈ d.values.entries, entry.2.items? = none := by
    intro entry hentry
    exact absurd hentry List.not_mem_nil
  have hsent : (Message.mk .smsMessage d).rendered = "a b".toList := by
    show d.smsText = _
    rw [Draft.smsText_eq rfl, htext]
    decide +kernel
  have hpreview : (Message.mk .smsBodyPreview d).rendered = "a?b".toList := by
    show d.smsBodyPreview = _
    rw [Draft.smsBodyPreview_eq rfl hlists, htext]
    decide +kernel
  refine ⟨hlists, rfl, rfl, hsent, hpreview, ?_⟩
  rw [hsent, hpreview]
  decide +kernel

end Message

end MessageTemplate

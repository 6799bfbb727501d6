/-
# Sizes and the text that is sent

The size of a message is taken of its measured body, the message itself is
written by another path.  Here the two are compared, for drafts in which no
placeholder is shown as missing:

* with downgrading and without a service name, the size always covers what is
  sent, since that stays within what is measured (`Draft.smsText_within`,
  `Draft.broadcastText_within`);
* without downgrading, the size is that of what is sent exactly for the texts
  that are measured as they are (`Gsm.MeasuredAsIs`);
* a service name is measured as it is written but sent downgraded, so the size
  covers it exactly when that leaves its number of characters as it is
  (`Draft.characters_smsMeasured_eq_iff`).
-/
import MessageTemplate.Message.Basic
import MessageTemplate.Proofs.Body

namespace MessageTemplate

namespace Draft

variable {d : Draft}

/-! ## Text messages -/

/-- The number of characters that downgrading a service name adds, against the
number that it takes away. -/
theorem count_servicePrefix (name : Option Text) :
    (servicePrefix name).count '…' = (name.getD []).count '…'
      ∧ (servicePrefix name).countP Gsm.isWidthless = (name.getD []).countP Gsm.isWidthless :=
  ⟨countP_servicePrefix (by decide) (by decide) name,
    countP_servicePrefix (by decide) (by decide) name⟩

/-- The measured text of a text message, where nothing is missing. -/
theorem smsMeasured_eq (h : d.unresolved = 0) :
    d.smsMeasured
      = ⟨servicePrefix d.options.visibleServiceName ++ Gsm.replaceLookalikes d.plainBody, 0⟩ := by
  rw [smsMeasured, measured_eq h, Measured.withName, withServiceName_eq]

/-- A downgraded text message. -/
theorem smsText_of_downgrade (h : d.options.downgrade = true) :
    d.smsText = Gsm.downgrade (servicePrefix d.options.visibleServiceName ++ d.plainBody) := by
  rw [smsText, sendable_of_downgrade h, withServiceName_eq]

/-- The characters of a text message are those that are sent exactly when the
ellipses of the service name add as many as its characters of no width take away. -/
theorem characters_smsMeasured_eq_iff (hdowngrade : d.options.downgrade = true)
    (h : d.unresolved = 0) :
    d.smsMeasured.characters = d.smsText.length
      ↔ 2 * (d.options.visibleServiceName.getD []).count '…'
        = (d.options.visibleServiceName.getD []).countP Gsm.isWidthless := by
  obtain ⟨hellipses, hwidthless⟩ := count_servicePrefix d.options.visibleServiceName
  have hname := Gsm.length_replaceLookalikes (servicePrefix d.options.visibleServiceName)
  rw [hellipses, hwidthless, ← Gsm.length_downgrade] at hname
  have hbody := Gsm.length_downgrade d.plainBody
  rw [smsMeasured_eq h, smsText_of_downgrade hdowngrade, Gsm.downgrade_append]
  show (servicePrefix _ ++ Gsm.replaceLookalikes _).length + 0
    = (Gsm.downgrade _ ++ Gsm.downgrade _).length ↔ _
  rw [List.length_append, List.length_append]
  omega

/-- The text sent stays within the measured text where downgrading makes the
service name no longer. -/
theorem smsText_within (hdowngrade : d.options.downgrade = true) (h : d.unresolved = 0)
    (hname : 2 * (d.options.visibleServiceName.getD []).count '…'
      ≤ (d.options.visibleServiceName.getD []).countP Gsm.isWidthless) :
    (Gsm.Length.ofText d.smsText).Within d.smsMeasured.length := by
  obtain ⟨hellipses, hwidthless⟩ := count_servicePrefix d.options.visibleServiceName
  have hshorter : (Gsm.downgrade (servicePrefix d.options.visibleServiceName)).length
      ≤ (servicePrefix d.options.visibleServiceName).length := by
    have hlength := Gsm.length_replaceLookalikes (servicePrefix d.options.visibleServiceName)
    rw [Gsm.length_downgrade]
    omega
  rw [smsMeasured_eq h, smsText_of_downgrade hdowngrade, Measured.length, Gsm.Length.add_zero]
  exact Gsm.Length.ofText_downgrade_within _ d.plainBody hshorter

/-! ## Broadcasts -/

/-- The characters of a broadcast are those that are sent. -/
theorem characters_broadcast_eq (hdowngrade : d.options.downgrade = true)
    (h : d.unresolved = 0) :
    (Measured.ofDraft d).characters = d.broadcastText.length := by
  rw [measured_eq h, broadcastText, sendable_of_downgrade hdowngrade, Gsm.length_downgrade]
  rfl

/-- A broadcast is not too long exactly when it fits the capacity of its encoding. -/
theorem broadcastIsTooLong_eq_false_iff :
    d.broadcastIsTooLong = false
      ↔ d.broadcastLength.units ≤ d.broadcastLength.encoding.broadcastCapacity := by
  rw [broadcastIsTooLong, decide_eq_false_iff_not, Nat.not_lt]

/-- The text broadcast stays within the measured text. -/
theorem broadcastText_within (hdowngrade : d.options.downgrade = true) (h : d.unresolved = 0) :
    (Gsm.Length.ofText d.broadcastText).Within d.broadcastLength := by
  rw [broadcastLength, measured_eq h, broadcastText, sendable_of_downgrade hdowngrade,
    Measured.length, Gsm.Length.add_zero]
  exact Gsm.Length.ofText_downgrade_within [] d.plainBody (Nat.le_refl 0)

/-! ## Without downgrading -/

/-- Without a service name and downgrading, the body in plain text is sent. -/
theorem smsText_of_not_downgrade (hdowngrade : d.options.downgrade = false)
    (hname : d.options.visibleServiceName = none) : d.smsText = d.plainBody := by
  rw [smsText, sendable_of_not_downgrade hdowngrade, hname]
  rfl

/-- Without downgrading, the body in plain text is broadcast. -/
theorem broadcastText_of_not_downgrade (hdowngrade : d.options.downgrade = false) :
    d.broadcastText = d.plainBody :=
  sendable_of_not_downgrade hdowngrade d.plainBody

/-- The length of a text message without a service name, where nothing is missing. -/
theorem length_smsMeasured_eq (hname : d.options.visibleServiceName = none)
    (h : d.unresolved = 0) :
    d.smsMeasured.length = Gsm.Length.ofText (Gsm.replaceLookalikes d.plainBody) := by
  rw [smsMeasured_eq h, hname, servicePrefix_none, List.nil_append, Measured.length,
    Gsm.Length.add_zero]

/-- The length of a broadcast, where nothing is missing. -/
theorem broadcastLength_eq (h : d.unresolved = 0) :
    d.broadcastLength = Gsm.Length.ofText (Gsm.replaceLookalikes d.plainBody) := by
  rw [broadcastLength, measured_eq h, Measured.length, Gsm.Length.add_zero]

/-- The body in plain text has normal spacing. -/
theorem staysInLines_plainBody (d : Draft) : ∀ c ∈ d.plainBody, staysInLines c = true :=
  staysInLines_of_mem_normaliseLines

end Draft

namespace Message

/-! ## The size covers what is sent -/

/-- **Downgraded messages without a service name.**  Their characters are
those that are sent, what is sent never needs more parts than the size says,
and a broadcast that is not too long fits the capacity of its own encoding. -/
theorem size_covers_sent_text (d : Draft) (hdowngrade : d.options.downgrade = true)
    (hname : d.options.visibleServiceName = none) (hresolved : d.unresolved = 0) :
    let sms := Message.mk .smsMessage d
    let smsLength := Gsm.Length.ofText sms.rendered
    let broadcast := Message.mk .broadcastMessage d
    let broadcastLength := Gsm.Length.ofText broadcast.rendered
    sms.characters = sms.rendered.length
      ∧ (∃ parts, sms.parts? = some parts
        ∧ Gsm.smsParts smsLength.units smsLength.encoding ≤ parts)
      ∧ broadcast.characters = broadcast.rendered.length
      ∧ (∃ parts, broadcast.parts? = some parts
        ∧ Gsm.broadcastParts broadcastLength.units broadcastLength.encoding ≤ parts)
      ∧ (broadcast.isTooLong = false
        → broadcastLength.units ≤ broadcastLength.encoding.broadcastCapacity) := by
  intro sms smsLength broadcast broadcastLength
  have hbroadcast := Draft.broadcastText_within hdowngrade hresolved
  refine ⟨?_, ⟨d.smsParts, rfl, ?_⟩, ?_, ⟨d.broadcastParts, rfl, ?_⟩, ?_⟩
  · refine (Draft.characters_smsMeasured_eq_iff hdowngrade hresolved).2 ?_
    rw [hname]
    rfl
  · refine (Draft.smsText_within hdowngrade hresolved ?_).smsParts_le
    rw [hname]
    exact Nat.le_refl 0
  · exact Draft.characters_broadcast_eq hdowngrade hresolved
  · exact hbroadcast.broadcastParts_le
  · intro hfits
    exact hbroadcast.le_broadcastCapacity (Draft.broadcastIsTooLong_eq_false_iff.1 hfits)

/-- A broadcast that is measured in UCS-2 and sent in GSM-7, with more units
than it has characters. -/
theorem size_covers_bracketed_text :
    let d : Draft := ⟨⟨"深((mark))".toList, none, .broadcast⟩, {},
      .ofList [("mark".toList, .text ['['])]⟩
    d.options.downgrade = true ∧ d.options.visibleServiceName = none ∧ d.unresolved = 0
      ∧ (Message.mk .broadcastMessage d).isTooLong = false
      ∧ (Message.mk .broadcastMessage d).length? = some ⟨2, 2, .ucs2⟩
      ∧ Gsm.Length.ofText (Message.mk .broadcastMessage d).rendered = ⟨2, 3, .gsm7⟩
      ∧ 3 ≤ Gsm.Encoding.gsm7.broadcastCapacity := by
  intro d
  have hresolved : d.unresolved = 0 := by cbv
  have hbody : d.plainBody = ['深', '['] := by cbv
  have hmeasured : d.broadcastLength = ⟨2, 2, .ucs2⟩ := by
    rw [Draft.broadcastLength_eq hresolved, hbody]
    decide +kernel
  have hshort : (Message.mk .broadcastMessage d).isTooLong = false := by
    refine Draft.broadcastIsTooLong_eq_false_iff.2 ?_
    rw [hmeasured]
    decide
  have hsent : Gsm.Length.ofText (Message.mk .broadcastMessage d).rendered = ⟨2, 3, .gsm7⟩ := by
    show Gsm.Length.ofText (d.sendable d.plainBody) = _
    rw [hbody]
    decide +kernel
  have hfits := (size_covers_sent_text d rfl rfl hresolved).2.2.2.2 hshort
  rw [hsent] at hfits
  exact ⟨rfl, rfl, hresolved, hshort, congrArg some hmeasured, hsent, hfits⟩

/-! ## Texts that are sent as they are -/

/-- **Messages without downgrading and service name.**  The encoding and units
of a message are those of what is sent exactly if that text is measured as it
is.  A broadcast that is not too long fits the capacity of its own encoding
exactly if it has no typographic character or no more characters than UCS-2 holds. -/
theorem size_of_unaltered_text_iff (d : Draft) (hdowngrade : d.options.downgrade = false)
    (hname : d.options.visibleServiceName = none) (hresolved : d.unresolved = 0) :
    let sms := Message.mk .smsMessage d
    let smsLength := Gsm.Length.ofText sms.rendered
    let broadcast := Message.mk .broadcastMessage d
    let broadcastLength := Gsm.Length.ofText broadcast.rendered
    ((∃ length, sms.length? = some length ∧ length.encoding = smsLength.encoding
        ∧ length.units = smsLength.units)
      ↔ Gsm.MeasuredAsIs sms.rendered)
    ∧ ((∃ length, broadcast.length? = some length
        ∧ length.encoding = broadcastLength.encoding ∧ length.units = broadcastLength.units)
      ↔ Gsm.MeasuredAsIs broadcast.rendered)
    ∧ (broadcast.isTooLong = false
      → (broadcastLength.units ≤ broadcastLength.encoding.broadcastCapacity
        ↔ (∀ c ∈ broadcast.rendered, Gsm.isTypographic c = false)
          ∨ broadcast.rendered.length ≤ Gsm.Encoding.ucs2.broadcastCapacity)) := by
  intro sms smsLength broadcast broadcastLength
  have hsms : sms.rendered = d.plainBody := Draft.smsText_of_not_downgrade hdowngrade hname
  have hbroadcast : broadcast.rendered = d.plainBody :=
    Draft.broadcastText_of_not_downgrade hdowngrade
  have hmeasured := Gsm.ofText_replaceLookalikes_eq_iff (Draft.staysInLines_plainBody d)
  refine ⟨?_, ?_, ?_⟩
  · have hlength : sms.length? = some (Gsm.Length.ofText (Gsm.replaceLookalikes d.plainBody)) := by
      show some d.smsMeasured.length = _
      rw [Draft.length_smsMeasured_eq hname hresolved]
    simp only [smsLength, hsms, hlength, Option.some.injEq, exists_eq_left']
    exact hmeasured
  · have hlength : broadcast.length?
        = some (Gsm.Length.ofText (Gsm.replaceLookalikes d.plainBody)) := by
      show some d.broadcastLength = _
      rw [Draft.broadcastLength_eq hresolved]
    simp only [broadcastLength, hbroadcast, hlength, Option.some.injEq, exists_eq_left']
    exact hmeasured
  · intro hfits
    have hunits := Draft.broadcastIsTooLong_eq_false_iff.1 hfits
    rw [Draft.broadcastLength_eq hresolved] at hunits
    simp only [broadcastLength, hbroadcast]
    exact Gsm.le_broadcastCapacity_iff hunits

/-- A text message that is a curly apostrophe is sent in UCS-2 and sized in
GSM-7, and so is the broadcast. -/
theorem curly_apostrophe_sized_in_gsm7 :
    let d : Draft := ⟨⟨['’'], none, .sms⟩, { downgrade := false }, .empty⟩
    d.options.downgrade = false ∧ d.options.visibleServiceName = none ∧ d.unresolved = 0
      ∧ (Message.mk .smsMessage d).length? = some ⟨1, 1, .gsm7⟩
      ∧ Gsm.Length.ofText (Message.mk .smsMessage d).rendered = ⟨1, 1, .ucs2⟩
      ∧ (Message.mk .broadcastMessage d).length? = some ⟨1, 1, .gsm7⟩
      ∧ Gsm.Length.ofText (Message.mk .broadcastMessage d).rendered = ⟨1, 1, .ucs2⟩ := by
  intro d
  have hresolved : d.unresolved = 0 := by cbv
  have hbody : d.plainBody = ['’'] := by cbv
  have hmeasured : Gsm.Length.ofText (Gsm.replaceLookalikes ['’']) = ⟨1, 1, .gsm7⟩ := by
    decide +kernel
  have hsent : Gsm.Length.ofText ['’'] = ⟨1, 1, .ucs2⟩ := by decide +kernel
  refine ⟨rfl, rfl, hresolved, ?_, ?_, ?_, ?_⟩
  · show some d.smsMeasured.length = _
    rw [Draft.length_smsMeasured_eq rfl hresolved, hbody, hmeasured]
  · rw [← hsent, ← hbody, ← Draft.smsText_of_not_downgrade rfl rfl]
    rfl
  · show some d.broadcastLength = _
    rw [Draft.broadcastLength_eq hresolved, hbody, hmeasured]
  · rw [← hsent, ← hbody, ← Draft.broadcastText_of_not_downgrade rfl]
    rfl

/-- An ellipsis beside a letter outside the alphabets is sized in UCS-2, as it
is sent, but for three characters. -/
theorem size_of_unaltered_ellipsis :
    let d : Draft := ⟨⟨['Ж', '…'], none, .sms⟩, { downgrade := false }, .empty⟩
    d.options.downgrade = false ∧ d.options.visibleServiceName = none ∧ d.unresolved = 0
      ∧ ¬ Gsm.MeasuredAsIs (Message.mk .smsMessage d).rendered
      ∧ ¬ ∃ length, (Message.mk .smsMessage d).length? = some length
        ∧ length.encoding = (Gsm.Length.ofText (Message.mk .smsMessage d).rendered).encoding
        ∧ length.units = (Gsm.Length.ofText (Message.mk .smsMessage d).rendered).units := by
  intro d
  have hresolved : d.unresolved = 0 := by cbv
  have hsent : (Message.mk .smsMessage d).rendered = ['Ж', '…'] := by cbv
  have hiff := (size_of_unaltered_text_iff d rfl rfl hresolved).1
  have hnot : ¬ Gsm.MeasuredAsIs (Message.mk .smsMessage d).rendered := by
    rw [hsent]
    rintro (hplain | ⟨-, habsent⟩)
    · exact absurd (hplain '…' (by decide)) (by decide)
    · exact habsent (by decide)
  exact ⟨rfl, rfl, hresolved, hnot, fun h => hnot (hiff.1 h)⟩

/-! ## Service names -/

/-- **Downgraded text messages with any service name.**  Their characters are
those that are sent and what is sent needs no more parts than the size says,
exactly if the ellipses of the service name add as many characters as those of
no width take away.  The parts are enough also if they take away more. -/
theorem size_covers_service_name_iff (d : Draft) (hdowngrade : d.options.downgrade = true)
    (hresolved : d.unresolved = 0) :
    let sms := Message.mk .smsMessage d
    let sent := Gsm.Length.ofText sms.rendered
    let name := d.options.visibleServiceName.getD []
    ((sms.characters = sms.rendered.length
        ∧ ∃ parts, sms.parts? = some parts ∧ Gsm.smsParts sent.units sent.encoding ≤ parts)
      ↔ 2 * name.count '…' = name.countP Gsm.isWidthless)
    ∧ (2 * name.count '…' ≤ name.countP Gsm.isWidthless
      → ∃ parts, sms.parts? = some parts ∧ Gsm.smsParts sent.units sent.encoding ≤ parts) := by
  intro sms sent name
  have hcharacters := Draft.characters_smsMeasured_eq_iff hdowngrade hresolved
  have hparts : 2 * name.count '…' ≤ name.countP Gsm.isWidthless
      → ∃ parts, sms.parts? = some parts ∧ Gsm.smsParts sent.units sent.encoding ≤ parts :=
    fun hname => ⟨d.smsParts, rfl, (Draft.smsText_within hdowngrade hresolved hname).smsParts_le⟩
  refine ⟨⟨fun h => hcharacters.1 h.1, fun h => ?_⟩, hparts⟩
  exact ⟨hcharacters.2 h, hparts (Nat.le_of_eq h)⟩

/-- Sixty ellipses as a service name are sized as one part, and sent in two. -/
theorem ellipses_exceed_size :
    let d : Draft := ⟨⟨['a'], none, .sms⟩, { serviceName := some (List.replicate 60 '…') }, .empty⟩
    d.options.downgrade = true ∧ d.unresolved = 0
      ∧ (Message.mk .smsMessage d).characters = 63
      ∧ (Message.mk .smsMessage d).rendered.length = 183
      ∧ (Message.mk .smsMessage d).parts? = some 1
      ∧ Gsm.Length.ofText (Message.mk .smsMessage d).rendered = ⟨183, 183, .gsm7⟩
      ∧ Gsm.smsParts 183 .gsm7 = 2 := by
  intro d
  have hresolved : d.unresolved = 0 := by cbv
  have hbody : d.plainBody = ['a'] := by cbv
  have hmeasured : d.smsMeasured.length = ⟨63, 63, .ucs2⟩ := by
    rw [Draft.smsMeasured_eq hresolved, hbody]
    decide +kernel
  have hsent : Gsm.Length.ofText (Message.mk .smsMessage d).rendered = ⟨183, 183, .gsm7⟩ := by
    show Gsm.Length.ofText d.smsText = _
    rw [Draft.smsText_of_downgrade rfl, hbody]
    decide +kernel
  refine ⟨rfl, hresolved, congrArg Gsm.Length.characters hmeasured,
    congrArg Gsm.Length.characters hsent, ?_, hsent, by decide⟩
  show some d.smsParts = some 1
  rw [Draft.smsParts, hmeasured]
  decide

/-- A service name with an ellipsis and two characters of no width is sent
with as many characters as it is measured with. -/
theorem size_covers_balanced_service_name :
    let d : Draft := ⟨⟨['a'], none, .sms⟩,
      { serviceName := some ['…', '\u200b', '\u200b'] }, .empty⟩
    d.options.downgrade = true ∧ d.unresolved = 0
      ∧ 2 * (d.options.visibleServiceName.getD []).count '…'
        = (d.options.visibleServiceName.getD []).countP Gsm.isWidthless
      ∧ (Message.mk .smsMessage d).characters = (Message.mk .smsMessage d).rendered.length := by
  intro d
  have hresolved : d.unresolved = 0 := by cbv
  have hbalanced : 2 * (d.options.visibleServiceName.getD []).count '…'
      = (d.options.visibleServiceName.getD []).countP Gsm.isWidthless := by decide
  exact ⟨rfl, hresolved, hbalanced,
    ((size_covers_service_name_iff d rfl hresolved).1.2 hbalanced).1⟩

end Message

end MessageTemplate

/-
# What a message depends on

A message is made from its template, its options and the values of the names
it looks up.  `Message.lookedUp` lists these names without looking at any
value: the placeholders of the template and, in a preview that shows it, the
recipient.  `Message.shown_of_lookedUp` says that values which agree on these
names show the same message.
-/
import Mathlib
import MessageTemplate.Message.Basic
import MessageTemplate.Proofs.Listing
import MessageTemplate.Proofs.Substitution

namespace MessageTemplate

/-! ## Names -/

/-- The names in what a conditional shows are names of the conditional. -/
theorem Node.names_subset_of_mem {name : Text} {shown : List Node} {n : Node} (hn : n ∈ shown) :
    n.names ⊆ (Node.conditional name shown).names := by
  intro name' hname'
  rw [Node.names]
  exact List.mem_cons_of_mem name (List.mem_flatMap.2 ⟨n, hn, hname'⟩)

/-- The names of a node are placeholders of the template it is read from. -/
theorem Node.names_subset_placeholders {content : Text} {n : Node} (hn : n ∈ Node.read content) :
    n.names ⊆ placeholders content := by
  intro name hname
  exact mem_placeholders.2 ⟨n, hn, hname⟩

/-- Two personalisations have the same values under some names. -/
def Personalisation.AgreeOn (names : List Text) (values values' : Personalisation) : Prop :=
  ∀ name ∈ names, values.get? name = values'.get? name

theorem Personalisation.AgreeOn.mono {names names' : List Text} {values values' : Personalisation}
    (h : AgreeOn names values values') (hsub : names' ⊆ names) :
    AgreeOn names' values values' :=
  fun name hname => h name (hsub hname)

/-- A value that is put in changes no other name. -/
theorem Personalisation.agreeOn_insert {names : List Text} {name : Text}
    (h : ∀ other ∈ names, other.trim ≠ name.trim) (values : Personalisation) (value : Value) :
    AgreeOn names (values.insert name value) values := by
  intro other hother
  rw [get?, get?, stored?_insert, if_neg (h other hother)]

/-! ## Substitution -/

namespace Substitution

variable {values values' : Personalisation} {content : Text}

/-- Whether a conditional text is shown depends on the value of its name. -/
theorem showsConditional_congr {name : Text} (h : values.get? name = values'.get? name) :
    showsConditional values name = showsConditional values' name := by
  rw [showsConditional, showsConditional, h]

/-- What is written for a node depends on the values of its names. -/
theorem writeNode_congr (s : Substitution) (n : Node)
    (h : Personalisation.AgreeOn n.names values values') :
    s.writeNode values n = s.writeNode values' n := by
  induction n with
  | text t => rw [writeNode, writeNode]
  | value name =>
    have hname := h name (by simp [Node.names])
    rw [writeNode, writeNode, writeValue, writeValue, hname]
  | conditional name shown ih =>
    have hname := h name (by simp [Node.names])
    rw [writeNode, writeNode, showsConditional_congr hname]
    congr 1
    apply List.flatMap_congr
    intro n hn
    exact ih n hn (h.mono (Node.names_subset_of_mem hn))

/-- The names missing from a node depend on the values of its names. -/
theorem missing_congr (n : Node) (h : Personalisation.AgreeOn n.names values values') :
    n.missing values = n.missing values' := by
  induction n with
  | text t => rw [Node.missing, Node.missing]
  | value name =>
    have hname := h name (by simp [Node.names])
    rw [Node.missing, Node.missing, hname]
  | conditional name shown ih =>
    have hname := h name (by simp [Node.names])
    rw [Node.missing, Node.missing, showsConditional_congr hname]
    congr 1
    apply List.flatMap_congr
    intro n hn
    exact ih n hn (h.mono (Node.names_subset_of_mem hn))

/-- **Writing.**  What is written for a template depends on the values of its
placeholders. -/
theorem render_congr (s : Substitution)
    (h : Personalisation.AgreeOn (placeholders content) values values') :
    s.render values content = s.render values' content := by
  unfold render writeNodes
  apply List.flatMap_congr
  intro n hn
  exact writeNode_congr s n (h.mono (Node.names_subset_placeholders hn))

/-- **Counting.**  How many placeholders of a template are shown as missing
depends on the values of its placeholders. -/
theorem unresolvedCount_congr (s : Substitution)
    (h : Personalisation.AgreeOn (placeholders content) values values') :
    s.unresolvedCount values content = s.unresolvedCount values' content := by
  have hmissing : missingNames values content = missingNames values' content := by
    unfold missingNames
    apply List.flatMap_congr
    intro n hn
    exact missing_congr n (h.mono (Node.names_subset_placeholders hn))
  rw [unresolvedCount_eq, unresolvedCount_eq, hmissing]

end Substitution

/-! ## Drafts -/

namespace Draft

/-- A draft with other values. -/
def withValues (d : Draft) (values : Personalisation) : Draft :=
  { d with values := values }

@[simp] theorem withValues_options (d : Draft) (values : Personalisation) :
    (d.withValues values).options = d.options := rfl

@[simp] theorem sendable_withValues (d : Draft) (values : Personalisation) :
    (d.withValues values).sendable = d.sendable := rfl

@[simp] theorem banner_withValues (d : Draft) (values : Personalisation) :
    (d.withValues values).banner = d.banner := rfl

variable {d : Draft} {values : Personalisation}

theorem plainBody_withValues
    (h : Personalisation.AgreeOn (placeholders d.spec.content) values d.values) :
    (d.withValues values).plainBody = d.plainBody := by
  rw [plainBody, plainBody]
  congr 1
  exact d.plainSubstitution.render_congr h

theorem markupBody_withValues
    (h : Personalisation.AgreeOn (placeholders d.spec.content) values d.values) :
    (d.withValues values).markupBody = d.markupBody := by
  rw [markupBody, markupBody]
  congr 1
  exact d.markupSubstitution.render_congr h

theorem previewBody_withValues
    (h : Personalisation.AgreeOn (placeholders d.spec.content) values d.values)
    (name : Option Text) : (d.withValues values).previewBody name = d.previewBody name := by
  rw [previewBody, previewBody, markupBody_withValues h, sendable_withValues]

theorem htmlBody_withValues
    (h : Personalisation.AgreeOn (placeholders d.spec.content) values d.values)
    (links : Html.LinkStyle) : (d.withValues values).htmlBody links = d.htmlBody links := by
  rw [htmlBody, htmlBody, markupMarkdown, markupMarkdown, markupBody_withValues h]

theorem plainTextEmail_withValues
    (h : Personalisation.AgreeOn (placeholders d.spec.content) values d.values) :
    (d.withValues values).plainTextEmail = d.plainTextEmail := by
  rw [plainTextEmail, plainTextEmail, plainMarkdown, plainMarkdown, plainBody_withValues h]

theorem measured_withValues
    (h : Personalisation.AgreeOn (placeholders d.spec.content) values d.values) :
    Measured.ofDraft (d.withValues values) = Measured.ofDraft d := by
  rw [Measured.ofDraft, Measured.ofDraft]
  congr 1
  · dsimp only
    congr 2
    exact Substitution.render_congr _ h
  · exact d.plainSubstitution.unresolvedCount_congr h

theorem smsBodyPreview_withValues
    (h : Personalisation.AgreeOn (placeholders d.spec.content) values d.values) :
    (d.withValues values).smsBodyPreview = d.smsBodyPreview := by
  have hrender := Substitution.render_congr { redactMissing := true } h
  show normaliseWhitespace (d.sendable (Substitution.render _ values d.spec.content)) = _
  rw [hrender]
  rfl

theorem subject_withValues
    (h : Personalisation.AgreeOn (placeholders d.rawSubject) values d.values) (html : HtmlMode)
    (style : MissingStyle) : (d.withValues values).subject html style = d.subject html style := by
  rw [subject, subject]
  congr 2
  exact Substitution.render_congr _ h

end Draft

/-! ## Messages -/

namespace Message

/-- The name of the placeholder for the recipient, in a preview that shows it. -/
def recipientName? (m : Message) : Option String :=
  match m.kind with
  | .smsPreview => if m.draft.options.showRecipient then some "phone number" else none
  | .emailPreview => if m.draft.options.showRecipient then some "email address" else none
  | _ => none

/-- The names whose values are looked up for a message. -/
def lookedUp (m : Message) : List Text :=
  m.placeholders ++ m.recipientName?.toList.map String.toList

/-- A message with other values. -/
def withValues (m : Message) (values : Personalisation) : Message :=
  { m with draft := m.draft.withValues values }

/-- Two messages answer every question about their text and size alike. -/
structure ShownAlike (m m' : Message) : Prop where
  rendered : m.rendered = m'.rendered
  subject : m.subject? = m'.subject?
  characters : m.characters = m'.characters
  length : m.length? = m'.length?
  parts : m.parts? = m'.parts?
  isEmpty : m.isEmpty = m'.isEmpty
  isTooLong : m.isTooLong = m'.isTooLong

variable {m : Message} {values : Personalisation}

/-- The names looked up hold the placeholders of the content, whatever the channel. -/
theorem placeholders_content_subset (m : Message) :
    MessageTemplate.placeholders m.draft.spec.content ⊆ m.lookedUp := by
  intro name hname
  rw [lookedUp, List.mem_append, placeholders]
  left
  cases m.kind.channel with
  | email =>
    dsimp only
    rw [Draft.emailPlaceholders, List.mem_eraseDups]
    exact List.mem_append_right _ hname
  | sms => exact hname
  | broadcast => exact hname

/-- The names looked up for an email hold the placeholders of the subject. -/
theorem placeholders_subject_subset (h : m.kind.channel = .email) :
    MessageTemplate.placeholders m.draft.rawSubject ⊆ m.lookedUp := by
  intro name hname
  rw [lookedUp, List.mem_append, placeholders, h]
  left
  dsimp only
  rw [Draft.emailPlaceholders, List.mem_eraseDups]
  exact List.mem_append_left _ hname

/-- The template of a shown recipient has no placeholder but the recipient's name. -/
theorem placeholders_recipient {name : String} (h : m.recipientName? = some name) :
    MessageTemplate.placeholders ("((".toList ++ name.toList ++ "))".toList) = [name.toList] := by
  have hname : name = "phone number" ∨ name = "email address" := by
    unfold recipientName? at h
    grind
  rcases hname with rfl | rfl
  · cbv
  · cbv

/-- A shown recipient depends on the value of its name. -/
theorem recipient_withValues (h : Personalisation.AgreeOn m.lookedUp values m.draft.values)
    {name : String} (hname : m.recipientName? = some name) :
    (m.draft.withValues values).recipient name = m.draft.recipient name := by
  rw [Draft.recipient, Draft.recipient]
  apply Substitution.render_congr
  rw [placeholders_recipient hname]
  apply h.mono
  rw [lookedUp, hname]
  exact List.subset_append_right _ _

/-- The line for the recipient of a text message, if there is one, depends on
the values looked up. -/
theorem smsRecipientLine_withValues (hkind : m.kind = .smsPreview)
    (h : Personalisation.AgreeOn m.lookedUp values m.draft.values) :
    (m.draft.withValues values).smsRecipientLine = m.draft.smsRecipientLine := by
  rw [Draft.smsRecipientLine, Draft.smsRecipientLine]
  by_cases hshow : m.draft.options.showRecipient = true
  · have hname : m.recipientName? = some "phone number" := by
      simp [recipientName?, hkind, hshow]
    rw [recipient_withValues h hname, Draft.withValues_options]
  · rw [Draft.withValues_options, if_neg hshow, if_neg hshow]

/-- The rows above the preview of an email depend on the values looked up. -/
theorem previewRows_withValues (hkind : m.kind = .emailPreview)
    (h : Personalisation.AgreeOn m.lookedUp values m.draft.values) :
    (m.draft.withValues values).previewRows = m.draft.previewRows := by
  have hsubject := h.mono (placeholders_subject_subset (m := m) (by rw [hkind]; rfl))
  rw [Draft.previewRows, Draft.previewRows, Draft.previewSubject, Draft.previewSubject,
    Draft.subject_withValues hsubject]
  by_cases hshow : m.draft.options.showRecipient = true
  · have hname : m.recipientName? = some "email address" := by
      simp [recipientName?, hkind, hshow]
    rw [recipient_withValues h hname]
    rfl
  · rw [Draft.withValues_options, if_neg hshow, if_neg hshow]
    rfl

/-- **Texts.**  What a message shows depends on the values looked up. -/
theorem rendered_withValues (h : Personalisation.AgreeOn m.lookedUp values m.draft.values) :
    (m.withValues values).rendered = m.rendered := by
  have hcontent := h.mono (placeholders_content_subset m)
  rw [rendered, rendered]
  simp only [withValues]
  cases hkind : m.kind with
  | smsMessage =>
    show (m.draft.withValues values).smsText = m.draft.smsText
    rw [Draft.smsText, Draft.smsText, Draft.plainBody_withValues hcontent,
      Draft.sendable_withValues, Draft.withValues_options]
  | smsPreview =>
    show (m.draft.withValues values).smsPreview = m.draft.smsPreview
    rw [Draft.smsPreview, Draft.smsPreview, smsRecipientLine_withValues hkind h, Draft.smsSender,
      Draft.smsSender, Draft.previewBody_withValues hcontent, Draft.withValues_options]
  | smsBodyPreview => exact Draft.smsBodyPreview_withValues hcontent
  | broadcastMessage =>
    show (m.draft.withValues values).broadcastText = m.draft.broadcastText
    rw [Draft.broadcastText, Draft.broadcastText, Draft.plainBody_withValues hcontent,
      Draft.sendable_withValues]
  | broadcastPreview =>
    show (m.draft.withValues values).broadcastPreview = m.draft.broadcastPreview
    unfold Draft.broadcastPreview
    rw [Draft.previewBody_withValues hcontent]
  | plainTextEmail => exact Draft.plainTextEmail_withValues hcontent
  | htmlEmail =>
    have hsubject := h.mono (placeholders_subject_subset (m := m) (by rw [hkind]; rfl))
    show (m.draft.withValues values).htmlEmail = m.draft.htmlEmail
    have hhead : (m.draft.withValues values).htmlSubject = m.draft.htmlSubject :=
      Draft.subject_withValues hsubject .escape .plain
    have hpreheader : (m.draft.withValues values).preheader = m.draft.preheader := by
      rw [Draft.preheader, Draft.preheader, Draft.plainTextEmail_withValues hcontent]
    unfold Draft.htmlEmail
    rw [Draft.htmlBody_withValues hcontent, hhead, hpreheader, Draft.banner_withValues,
      Draft.withValues_options]
  | emailPreview =>
    show (m.draft.withValues values).emailPreview = m.draft.emailPreview
    unfold Draft.emailPreview
    rw [Draft.htmlBody_withValues hcontent, previewRows_withValues hkind h]

/-- **Subjects.**  The subject of a message depends on the values looked up. -/
theorem subject?_withValues (h : Personalisation.AgreeOn m.lookedUp values m.draft.values) :
    (m.withValues values).subject? = m.subject? := by
  rw [subject?, subject?]
  by_cases hemail : m.kind.channel = .email
  · have hsubject := h.mono (placeholders_subject_subset hemail)
    simp only [withValues, Draft.htmlSubject, Draft.previewSubject,
      Draft.subject_withValues hsubject]
  · cases hkind : m.kind with
    | plainTextEmail | htmlEmail | emailPreview => rw [hkind] at hemail; exact absurd rfl hemail
    | _ => simp only [withValues, hkind]

/-- Values that agree on the names a message looks up show it alike. -/
theorem shownAlike_of_agreeOn (h : Personalisation.AgreeOn m.lookedUp values m.draft.values) :
    ShownAlike (m.withValues values) m := by
  have hcontent := h.mono (placeholders_content_subset m)
  have hplain := Draft.plainBody_withValues hcontent
  have hmeasured := Draft.measured_withValues hcontent
  constructor
  · exact rendered_withValues h
  · exact subject?_withValues h
  · simp only [characters, withValues, Draft.smsMeasured, Draft.emailCharacters, hmeasured, hplain]
    rfl
  · simp only [length?, withValues, Draft.smsMeasured, Draft.broadcastLength, hmeasured]
    rfl
  · simp only [parts?, withValues, Draft.smsParts, Draft.smsMeasured, Draft.broadcastParts,
      Draft.broadcastLength, hmeasured]
    rfl
  · simp only [isEmpty, withValues, Draft.smsIsEmpty, Draft.broadcastIsEmpty,
      Draft.emailCharacters, hmeasured, hplain]
  · simp only [isTooLong, withValues, Draft.smsIsTooLong, Draft.broadcastIsTooLong,
      Draft.broadcastLength, Draft.emailIsTooLong, Draft.emailBytes, hmeasured, hplain]
    rfl

/-- **Messages.**  A message depends on the values of the names it looks up:
values that agree on them show it alike.  No value adds to these names, so
putting in a value under another name, one that stands in a value for
instance, changes nothing. -/
theorem shown_of_lookedUp (m : Message) :
    (∀ values : Personalisation,
      (∀ name ∈ m.lookedUp, values.get? name = m.draft.values.get? name) →
        (m.withValues values).ShownAlike m)
    ∧ ∀ (values : Personalisation) (name : Text) (value : Value),
      (∀ other ∈ m.lookedUp, other.trim ≠ name.trim) →
        (m.withValues (values.insert name value)).ShownAlike (m.withValues values) := by
  constructor
  · intro values h
    exact shownAlike_of_agreeOn h
  · intro values name value h
    exact shownAlike_of_agreeOn (m := m.withValues values)
      (Personalisation.agreeOn_insert h values value)

/-- A name in brackets in a value is not looked up: the message is shown alike
whether it has no value, one value or another. -/
theorem shown_of_brackets_in_value :
    let m : Message := ⟨.smsPreview, ⟨⟨"Dear ((name))".toList, none, .sms⟩,
      { showRecipient := true }, .ofList [("name".toList, .text "((code))".toList)]⟩⟩
    let values : Personalisation := .ofList
      [("code".toList, .flag false), ("name".toList, .text "((code))".toList)]
    values.get? "code".toList ≠ m.draft.values.get? "code".toList
      ∧ (∀ name ∈ m.lookedUp, values.get? name = m.draft.values.get? name)
      ∧ (m.withValues values).ShownAlike m
      ∧ (∀ other ∈ m.lookedUp, other.trim ≠ Text.trim "code".toList)
      ∧ (m.withValues (values.insert "code".toList (.flag true))).ShownAlike
        (m.withValues values) := by
  intro m values
  have hlooked : m.lookedUp = ["name".toList, "phone number".toList] := by cbv
  have hdiffer : values.get? "code".toList ≠ m.draft.values.get? "code".toList := by
    have hone : values.get? "code".toList = some (.flag false) := by cbv
    have hnone : m.draft.values.get? "code".toList = none := by cbv
    rw [hone, hnone]
    exact Option.some_ne_none _
  have hagree : ∀ name ∈ m.lookedUp, values.get? name = m.draft.values.get? name := by
    rw [hlooked, List.forall_mem_cons, List.forall_mem_singleton]
    exact ⟨by cbv, by cbv⟩
  have hother : ∀ other ∈ m.lookedUp, other.trim ≠ Text.trim "code".toList := by
    rw [hlooked, List.forall_mem_cons, List.forall_mem_singleton]
    exact ⟨by decide, by decide⟩
  obtain ⟨halike, hinsert⟩ := shown_of_lookedUp m
  exact ⟨hdiffer, hagree, halike values hagree, hother,
    hinsert values "code".toList (.flag true) hother⟩

end Message

end MessageTemplate

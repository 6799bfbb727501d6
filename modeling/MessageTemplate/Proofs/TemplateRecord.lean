/-
# Template records read and written

The members of a template record are a text, a text that may be absent and a
channel, which is written as a word or as the only member, a null, of an object.
An object is accepted exactly if it describes a template (`Spec.Describes`), and
is read as the template it describes.

Writing leaves out an absent subject and spells a channel as a word.  What is
written is read back, but for an email without a subject, which no record
describes (`Spec.record_described_iff`).
-/
import Mathlib
import MessageTemplate.Message.Spec
import MessageTemplate.Proofs.Forms

namespace MessageTemplate

open Record Json

/-! ## Words for channels -/

/-- Whether a value stands for a channel: its name, or an object with a null under
its name and nothing else. -/
def Channel.IsWord (channel : Channel) (value : Json) : Prop :=
  value = .string channel.name ∨ value = .object [(channel.name, .null)]

theorem Channel.name_injective : Function.Injective Channel.name := by
  intro a b h
  cases a <;> cases b <;> first | rfl | exact absurd h (by decide)

/-- A channel is found by its name only. -/
theorem Channel.lookupWord_eq_ok_iff {channel : Channel} {word : Text} :
    lookupWord byName word = .ok channel ↔ word = channel.name := by
  constructor
  · intro h
    rw [lookupWord] at h
    split at h
    · rename_i found hfound
      obtain ⟨before, after, hsplit, -⟩ := List.lookup_eq_some_iff.1 hfound
      have hmem : (word, found) ∈ byName := hsplit ▸ List.mem_append_right _ List.mem_cons_self
      obtain ⟨channel', -, heq⟩ := List.mem_map.1 hmem
      obtain ⟨rfl, rfl⟩ := Prod.mk.inj heq
      rw [Except.ok.inj h]
    · cases h
  · rintro rfl
    cases channel <;> rfl

/-- A channel is read from the words for it. -/
theorem Channel.readWord_eq_ok_iff {channel : Channel} {value : Json} :
    readWord byName value = .ok channel ↔ channel.IsWord value := by
  rw [IsWord]
  match value with
  | .string word => simp [readWord, lookupWord_eq_ok_iff]
  | .object [(word, inner)] =>
    rw [readWord]
    cases hword : lookupWord byName word with
    | error fault =>
      have hne : word ≠ channel.name := fun h => by
        rw [lookupWord_eq_ok_iff.2 h] at hword
        cases hword
      simp [bind, Except.bind, hne]
    | ok found =>
      obtain rfl := lookupWord_eq_ok_iff.1 hword
      have hname : found = channel ↔ found.name = channel.name := name_injective.eq_iff.symm
      cases inner <;> simp [bind, Except.bind, hname]
  | .object [] | .object (_ :: _ :: _) => simp [readWord]
  | .null | .bool _ | .number _ | .array _ => simp [readWord]

namespace Spec

/-! ## The form of templates -/

theorem isLens_contentMember : contentMember.IsLens readText (fun t => some (.string t)) content
    fun t spec => { spec with content := t } where
  read_eq _ _ := rfl
  write_eq _ := rfl
  get_set _ _ := rfl
  set_get _ := rfl
  encode_injective _ _ h := Json.string.inj (Option.some.inj h)
  decode_of_encode := by
    rintro t value h
    rw [← Option.some.inj h]
    rfl

theorem isLens_subjectMember : subjectMember.IsLens readOptionalText (Option.map .string) subject
    fun t spec => { spec with subject := t } where
  read_eq _ _ := rfl
  write_eq _ := rfl
  get_set _ _ := rfl
  set_get _ := rfl
  encode_injective := Option.map_injective fun _ _ h => Json.string.inj h
  decode_of_encode := by
    rintro t value h
    obtain ⟨t, rfl, rfl⟩ := Option.map_eq_some_iff.1 h
    rfl

theorem isLens_channelMember : channelMember.IsLens (readWord Channel.byName)
    (fun channel => some (.string channel.name)) channel
    fun channel spec => { spec with channel := channel } where
  read_eq _ _ := rfl
  write_eq _ := rfl
  get_set _ _ := rfl
  set_get _ := rfl
  encode_injective _ _ h := Channel.name_injective (Json.string.inj (Option.some.inj h))
  decode_of_encode := by
    rintro channel value h
    exact Channel.readWord_eq_ok_iff.2 (Or.inl (Option.some.inj h).symm)

theorem forall_members_iff {P : Member Spec → Prop} :
    (∀ m ∈ form.members, P m) ↔ P contentMember ∧ P subjectMember ∧ P channelMember := by
  show (∀ m ∈ [contentMember, subjectMember, channelMember], P m) ↔ _
  rw [List.forall_mem_cons, List.forall_mem_cons, List.forall_mem_singleton]

theorem isLawful_form : form.IsLawful where
  closed := rfl
  nodup := by decide +kernel
  lawful := forall_members_iff.2
    ⟨isLens_contentMember.isLawful, isLens_subjectMember.isLawful, isLens_channelMember.isLawful⟩
  changesOnly := by
    refine List.forall_mem_cons.2 ⟨?_, List.forall_mem_cons.2 ⟨?_, List.forall_mem_singleton.2 ?_⟩⟩
    · exact isLens_contentMember.changesOnly fun _ _ => rfl
    · exact isLens_subjectMember.changesOnly fun _ _ => rfl
    · exact isLens_channelMember.changesOnly fun _ _ => rfl
  row_injective := by
    rintro ⟨content, subject, channel⟩ ⟨content', subject', channel'⟩ h
    obtain ⟨hcontent, h⟩ := List.cons.inj h
    obtain ⟨hsubject, h⟩ := List.cons.inj h
    obtain ⟨hchannel, -⟩ := List.cons.inj h
    obtain rfl : content = content' := isLens_contentMember.encode_injective hcontent
    obtain rfl : subject = subject' := isLens_subjectMember.encode_injective hsubject
    obtain rfl : channel = channel' := isLens_channelMember.encode_injective hchannel
    rfl

/-! ## Objects that describe templates -/

/-- Whether the members of an object describe a template. -/
structure Describes (members : Members) (spec : Spec) : Prop where
  known : ∀ name ∈ members.names,
    name ∈ ["content".toList, "subject".toList, "template_type".toList]
  content : members.lookup "content".toList = some (.string spec.content)
  channel : ∃ value, members.lookup "template_type".toList = some value
    ∧ spec.channel.IsWord value
  /-- The subject is absent or null when there is none. -/
  subject : match spec.subject with
    | some t => members.lookup "subject".toList = some (.string t)
    | none => members.lookup "subject".toList = none ∨ members.lookup "subject".toList = some .null

section

variable {members : Members} {spec : Spec}

theorem agrees_content_iff :
    contentMember.Agrees members blank spec ∧ contentMember.name ∈ members.names
      ↔ members.lookup "content".toList = some (.string spec.content) := by
  simp only [isLens_contentMember.agrees_and_mem_iff, readText_eq_ok_iff, exists_eq_right]
  rfl

theorem agrees_subject_iff :
    subjectMember.Agrees members blank spec ↔
      match spec.subject with
      | some t => members.lookup "subject".toList = some (.string t)
      | none => members.lookup "subject".toList = none
        ∨ members.lookup "subject".toList = some .null := by
  have hname : subjectMember.name = "subject".toList := rfl
  have hblank : blank.subject = none := rfl
  rw [isLens_subjectMember.agrees_iff, hname, hblank]
  cases members.lookup "subject".toList with
  | none => cases spec.subject <;> simp
  | some value => cases spec.subject <;> simp [readOptionalText_eq_ok_iff, writeOptionalText]

theorem agrees_channel_iff :
    channelMember.Agrees members blank spec ∧ channelMember.name ∈ members.names
      ↔ ∃ value, members.lookup "template_type".toList = some value
        ∧ spec.channel.IsWord value := by
  simp only [isLens_channelMember.agrees_and_mem_iff, Channel.readWord_eq_ok_iff]
  rfl

/-- A template is read from an object that describes it, whether or not it may
be without a subject. -/
theorem readAny_object_eq_ok_iff (h : members.names.Nodup) :
    readAny (.object members) = .ok spec ↔ Describes members spec := by
  rw [readAny, Form.read_object_eq_ok_iff, Form.readMembers_eq_ok_iff isLawful_form h,
    forall_members_iff, forall_members_iff]
  constructor
  · rintro ⟨⟨hknown, hcontent, hsubject, hchannel⟩, hcontent', -, hchannel'⟩
    exact ⟨hknown, agrees_content_iff.1 ⟨hcontent, hcontent' rfl⟩,
      agrees_channel_iff.1 ⟨hchannel, hchannel' rfl⟩, agrees_subject_iff.1 hsubject⟩
  · rintro ⟨hknown, hcontent, hchannel, hsubject⟩
    obtain ⟨hcontent, hcontent'⟩ := agrees_content_iff.2 hcontent
    obtain ⟨hchannel, hchannel'⟩ := agrees_channel_iff.2 hchannel
    -- the subject is not required
    exact ⟨⟨hknown, hcontent, agrees_subject_iff.2 hsubject, hchannel⟩,
      fun _ => hcontent', nofun, fun _ => hchannel'⟩

end

/-- What is written of a template is read back, whether or not it may be without
a subject. -/
theorem readAny_write (spec : Spec) : readAny spec.write = .ok spec := by
  -- only an absent subject is left out
  exact Form.read_write isLawful_form (forall_members_iff.2 ⟨nofun, fun _ => ⟨rfl, rfl⟩, nofun⟩)

/-- An email without a subject is refused, and any other template accepted. -/
theorem read_of_readAny {value : Json} {spec : Spec} (h : readAny value = .ok spec) :
    read value
      = if spec.channel = .email ∧ spec.subject = none then .error .noSubject else .ok spec := by
  rw [read, h]
  simp only [Bool.and_eq_true, decide_eq_true_eq, Option.isNone_iff_eq_none]

theorem read_eq_ok_iff {value : Json} {spec : Spec} :
    read value = .ok spec
      ↔ readAny value = .ok spec ∧ ¬(spec.channel = .email ∧ spec.subject = none) := by
  cases hany : readAny value with
  | error fault =>
    rw [read, hany]
    simp
  | ok found =>
    rw [read_of_readAny hany]
    constructor
    · intro h
      split at h
      · cases h
      · rename_i hsubject
        obtain rfl := Except.ok.inj h
        exact ⟨rfl, hsubject⟩
    · rintro ⟨h, hsubject⟩
      obtain rfl := Except.ok.inj h
      rw [if_neg hsubject]

/-- **Records.**  An object is read as the template it describes, and accepted
exactly if it describes one that has a subject if it is an email.  What is written
of a template is read back, but for an email without a subject; so what is written
of a template that was accepted is accepted as the same template. -/
theorem record_described_iff {members : Members} (h : members.names.Nodup) :
    (∀ spec, read (.object members) = .ok spec
        ↔ Describes members spec ∧ (spec.channel = .email → ∃ t, spec.subject = some t))
      ∧ (∀ spec, read spec.write
          = if spec.channel = .email ∧ spec.subject = none then .error .noSubject else .ok spec)
      ∧ ∀ spec, read (.object members) = .ok spec → read spec.write = .ok spec := by
  have hwrite : ∀ spec : Spec, read spec.write
      = if spec.channel = .email ∧ spec.subject = none then .error .noSubject else .ok spec :=
    fun spec => read_of_readAny (readAny_write spec)
  have hread : ∀ spec, read (.object members) = .ok spec
      ↔ Describes members spec ∧ ¬(spec.channel = .email ∧ spec.subject = none) := by
    intro spec
    rw [read_eq_ok_iff, readAny_object_eq_ok_iff h]
  refine ⟨fun spec => ?_, hwrite, fun spec hspec => ?_⟩
  · rw [hread, not_and, ← ne_eq, Option.ne_none_iff_exists']
  · rw [hwrite, if_neg ((hread spec).1 hspec).2]

/-- A null stands for an absent subject, and a channel may be an object with a null. -/
theorem record_without_subject_described :
    let members : Members :=
      [("content".toList, .string "Hi".toList), ("subject".toList, .null),
        ("template_type".toList, .object [("sms".toList, .null)])]
    let spec : Spec := { content := "Hi".toList, subject := none, channel := .sms }
    members.names.Nodup ∧ read (.object members) = .ok spec ∧ read spec.write = .ok spec := by
  intro members spec
  have hnames : members.names.Nodup := by decide
  have hdescribes : Describes members spec :=
    ⟨by decide, rfl, ⟨_, rfl, Or.inr rfl⟩, Or.inr rfl⟩
  obtain ⟨hread, -, hagain⟩ := record_described_iff hnames
  have hspec : read (.object members) = .ok spec := (hread spec).2 ⟨hdescribes, nofun⟩
  exact ⟨hnames, hspec, hagain spec hspec⟩

end Spec

end MessageTemplate

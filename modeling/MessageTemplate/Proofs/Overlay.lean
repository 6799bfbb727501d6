/-
# Options over defaults

The options of a request are laid over the configured defaults: the options
that carry the defaults are written, the members of the request are put in, and
the whole is read again.  Field by field this is the member that is given, or
else what the defaults say (`Defaults.overlay`); and a request is refused exactly
if one of its members is no setting (`Options.IsSetting`).

Every member of the options record is a flag or a text with a place of its own
(`Options.hasPlace_members`), from which the rest follows by the laws of forms.
The defaults of the configuration and those of the options record are two tables.
They agree, so that a request over the configured defaults is read as it would be
alone, its faults included (`Defaults.merge_lays_over`).
-/
import Mathlib
import MessageTemplate.Proofs.Forms
import MessageTemplate.Settings.Defaults

namespace MessageTemplate

open Record Json

/-! ## Settings -/

namespace Json.Members

/-- The boolean under a name, if there is one. -/
def flag? (members : Members) (name : Text) : Option Bool :=
  match members.lookup name with
  | some (.bool b) => some b
  | _ => none

/-- The string under a name, if there is one. -/
def text? (members : Members) (name : Text) : Option Text :=
  (members.lookup name).bind string?

end Json.Members

namespace Options

/-- The names of the options that are flags. -/
def flagNames : List Text :=
  ["show_prefix".toList, "show_sender".toList, "show_recipient".toList,
    "redact_missing_personalisation".toList, "downgrade_non_sms_characters".toList,
    "complete_html".toList, "govuk_banner".toList, "brand_banner".toList]

/-- The names of the options that are texts. -/
def textNames : List Text :=
  ["prefix".toList, "sender".toList, "brand_logo".toList, "brand_text".toList,
    "brand_colour".toList, "brand_name".toList, "from_name".toList, "from_address".toList,
    "reply_to".toList]

/-- Whether a value may stand under a name in an options record: a boolean under
the name of a flag, a string or a null under that of a text. -/
def IsSetting (name : Text) (value : Json) : Prop :=
  (name ∈ flagNames ∧ ∃ b, value = .bool b)
    ∨ (name ∈ textNames ∧ (value = .null ∨ ∃ t, value = .string t))

/-- No option is both a flag and a text. -/
theorem not_mem_textNames : ∀ name ∈ flagNames, name ∉ textNames := by
  decide +kernel

theorem isSetting_flag_iff {name : Text} {value : Json} (h : name ∈ flagNames) :
    IsSetting name value ↔ ∃ b, value = .bool b := by
  simp [IsSetting, h, not_mem_textNames name h]

theorem isSetting_text_iff {name : Text} {value : Json} (h : name ∈ textNames) :
    IsSetting name value ↔ value = .null ∨ ∃ t, value = .string t := by
  have hflag : name ∉ flagNames := fun hname => not_mem_textNames name hname h
  simp [IsSetting, h, hflag]

end Options

/-- The defaults under the members of an object, field by field: a flag is the
member given, or else that of the defaults; a text is the member given, or else absent. -/
def Defaults.overlay (d : Defaults) (members : Members) : Options where
  serviceName := members.text? "prefix".toList
  showServiceName := (members.flag? "show_prefix".toList).getD d.showServiceName
  sender := members.text? "sender".toList
  showSender := (members.flag? "show_sender".toList).getD d.showSender
  showRecipient := (members.flag? "show_recipient".toList).getD d.showRecipient
  redactMissing := (members.flag? "redact_missing_personalisation".toList).getD d.redactMissing
  downgrade := (members.flag? "downgrade_non_sms_characters".toList).getD d.downgrade
  completeHtml := (members.flag? "complete_html".toList).getD d.completeHtml
  govukBanner := (members.flag? "govuk_banner".toList).getD d.govukBanner
  brandBanner := (members.flag? "brand_banner".toList).getD d.brandBanner
  brandLogo := members.text? "brand_logo".toList
  brandText := members.text? "brand_text".toList
  brandColour := members.text? "brand_colour".toList
  brandName := members.text? "brand_name".toList
  fromName := members.text? "from_name".toList
  fromAddress := members.text? "from_address".toList
  replyTo := members.text? "reply_to".toList

/-! ## The form of options -/

namespace Options

/-- A member with a place of its own in the form: it is always written, and options
agree with an object over defaults there if it is a setting, and is written as it
is of the defaults under the object. -/
structure HasPlace (m : Member Options) (place : Nat) : Prop where
  isLawful : m.IsLawful
  changesOnly : form.ChangesOnly m place
  isSome_write : ∀ options, (m.write options).isSome = true
  agrees_iff : ∀ (d : Defaults) (members : Members) (options : Options),
    m.Agrees members d.toOptions options
      ↔ (∀ value, members.lookup m.name = some value → IsSetting m.name value)
        ∧ m.write options = m.write (d.overlay members)

theorem hasPlace_flag {name : Text} {get : Options → Bool} {set : Bool → Options → Options}
    {place : Nat} (hname : name ∈ flagNames) (hget : ∀ b options, get (set b options) = b)
    (hset : ∀ options, set (get options) options = options)
    (hrow : ∀ b options, form.row (set b options)
      = (form.row options).set place (some (.bool (get (set b options)))))
    (hoverlay : ∀ (d : Defaults) (members : Members),
      get (d.overlay members) = (members.flag? name).getD (get d.toOptions)) :
    HasPlace (.flag name get set) place := by
  have hlens : (Member.flag name get set).IsLens readFlag (fun b => some (.bool b)) get set :=
    Member.isLens_flag hget hset
  refine ⟨hlens.isLawful, hlens.changesOnly hrow, fun _ => rfl, fun d members options => ?_⟩
  rw [hlens.agrees_iff, hlens.write_eq, hlens.write_eq, hlens.encode_injective.eq_iff, hoverlay,
    Members.flag?]
  simp only [Member.name_flag, isSetting_flag_iff hname, readFlag_eq_ok_iff]
  cases members.lookup name with
  | none => simp
  | some value => cases value <;> simp [eq_comm]

theorem hasPlace_text {name : Text} {get : Options → Option Text}
    {set : Option Text → Options → Options} {place : Nat} (hname : name ∈ textNames)
    (hget : ∀ t options, get (set t options) = t)
    (hset : ∀ options, set (get options) options = options)
    (hrow : ∀ t options, form.row (set t options)
      = (form.row options).set place (some (writeOptionalText (get (set t options)))))
    (hoverlay : ∀ (d : Defaults) (members : Members),
      get d.toOptions = none ∧ get (d.overlay members) = members.text? name) :
    HasPlace (.optionalText name get set) place := by
  have hlens : (Member.optionalText name get set).IsLens readOptionalText
      (fun t => some (writeOptionalText t)) get set := Member.isLens_optionalText hget hset
  refine ⟨hlens.isLawful, hlens.changesOnly hrow, fun _ => rfl, fun d members options => ?_⟩
  obtain ⟨hdefault, hmembers⟩ := hoverlay d members
  rw [hlens.agrees_iff, hlens.write_eq, hlens.write_eq, hlens.encode_injective.eq_iff, hmembers,
    hdefault, Members.text?]
  simp only [Member.name_optionalText, isSetting_text_iff hname, readOptionalText_eq_ok_iff]
  cases members.lookup name with
  | none => simp
  | some value => cases value <;> cases get options <;> simp [writeOptionalText, string?, eq_comm]

/-- Every member of an options record is a flag or a text at its place. -/
theorem hasPlace_members : ∀ p ∈ members.zipIdx, HasPlace p.1 p.2 := by
  simp only [members, List.zipIdx_cons, List.zipIdx_nil, List.forall_mem_cons]
  refine ⟨?_, ?_, ?_, ?_, ?_, ?_, ?_, ?_, ?_, ?_, ?_, ?_, ?_, ?_, ?_, ?_, ?_,
    fun _ h => absurd h List.not_mem_nil⟩
  all_goals
    first
    | exact hasPlace_flag (by simp [flagNames]) (fun _ _ => rfl) (fun _ => rfl) (fun _ _ => rfl)
        fun _ _ => rfl
    | exact hasPlace_text (by simp [textNames]) (fun _ _ => rfl) (fun _ => rfl) (fun _ _ => rfl)
        fun _ _ => ⟨rfl, rfl⟩

theorem exists_hasPlace {m : Member Options} (h : m ∈ members) : ∃ place, HasPlace m place := by
  obtain ⟨place, hplace, rfl⟩ := List.getElem_of_mem h
  exact ⟨place, hasPlace_members (members[place], place)
    (List.mk_mem_zipIdx_iff_getElem?.2 (List.getElem?_eq_getElem hplace))⟩

/-- Options of which the same is written are the same. -/
theorem row_injective : Function.Injective form.row := by
  intro options options' h
  have hwrite : ∀ m ∈ members, m.write options = m.write options' := List.map_inj_left.1 h
  simp only [members, List.forall_mem_cons, Member.flag, Member.optionalText,
    Option.some.injEq, Json.bool.injEq, writeOptionalText_inj] at hwrite
  cases options
  cases options'
  simp only [Options.mk.injEq]
  tauto

theorem isLawful_form : form.IsLawful where
  closed := rfl
  nodup := by decide +kernel
  lawful m hm := (exists_hasPlace hm).choose_spec.isLawful
  changesOnly p hp := (hasPlace_members p hp).changesOnly
  row_injective := row_injective

/-- No option has to be given. -/
theorem not_required : ∀ m ∈ members, m.required = false := by
  intro m hm
  have hnone : (members.any Member.required) = false := rfl
  exact Bool.eq_false_iff.2 (List.any_eq_false.1 hnone m hm)

/-- The names of the form are those of the flags and the texts. -/
theorem names_perm : form.names.Perm (flagNames ++ textNames) := by
  decide +kernel

/-- Where each name stands once, the names of an object are known and what it says
of each member is a setting exactly if all its members are settings. -/
theorem isSetting_iff {members : Members} (hnames : members.names.Nodup) :
    ((∀ name ∈ members.names, name ∈ form.names)
        ∧ ∀ m ∈ Options.members, ∀ value, members.lookup m.name = some value →
          IsSetting m.name value)
      ↔ ∀ member ∈ members, IsSetting member.1 member.2 := by
  constructor
  · rintro ⟨hknown, hsetting⟩ ⟨name, value⟩ hmember
    obtain ⟨m, hm, rfl⟩ := Form.mem_names.1 (hknown _ (Members.mem_names_of_mem hmember))
    exact hsetting m hm value ((Members.lookup_eq_some_iff hnames).2 hmember)
  · intro hsetting
    refine ⟨fun name hname => ?_, fun m _ value hvalue => hsetting _ (Members.mem_of_lookup hvalue)⟩
    obtain ⟨member, hmember, rfl⟩ := List.mem_map.1 hname
    rw [names_perm.mem_iff, List.mem_append]
    exact (hsetting member hmember).imp And.left And.left

end Options

/-! ## Defaults under an object -/

namespace Defaults

variable {d : Defaults} {members : Members} {options : Options}

/-- The members of an object are read into the options with the defaults if they
are settings, and give the defaults under the object. -/
theorem readMembers_eq_ok_iff (hnames : members.names.Nodup) :
    Options.form.readMembers d.toOptions members = .ok options
      ↔ (∀ member ∈ members, Options.IsSetting member.1 member.2)
        ∧ options = d.overlay members := by
  have hagrees : (∀ m ∈ Options.members, m.Agrees members d.toOptions options)
      ↔ (∀ m ∈ Options.members, ∀ value, members.lookup m.name = some value →
          Options.IsSetting m.name value)
        ∧ options = d.overlay members := by
    rw [← Options.row_injective.eq_iff, Form.row, Form.row, List.map_inj_left]
    show _ ↔ _ ∧ ∀ m ∈ Options.members, m.write options = m.write (d.overlay members)
    rw [← forall₂_and]
    exact forall₂_congr fun m hm =>
      (Options.exists_hasPlace hm).choose_spec.agrees_iff d members options
  rw [Form.readMembers_eq_ok_iff Options.isLawful_form hnames, ← Options.isSetting_iff hnames,
    and_assoc, ← hagrees]
  rfl

/-- Merging an object reads its members into the options with the defaults. -/
theorem merge_object (d : Defaults) (h : members.IsOrdered) :
    d.merge (.object members) = Options.form.readMembers d.toOptions members :=
  Form.read_overlay Options.isLawful_form
    (fun _ hm => (Options.exists_hasPlace hm).choose_spec.isSome_write _) h

/-- **Overlay.**  Merging an object over defaults succeeds exactly if each of its
members is a setting, and gives the defaults under the object, field by field.
Over the defaults of the configuration an object is read as it is alone, with the
same options or the same fault; and what is written of options gives these options
back over any defaults. -/
theorem merge_lays_over (d : Defaults) {members : Members} (h : members.IsOrdered) :
    (∀ options, d.merge (.object members) = .ok options
        ↔ (∀ member ∈ members, Options.IsSetting member.1 member.2)
          ∧ options = d.overlay members)
      ∧ Defaults.merge {} (.object members) = Options.read (.object members)
      ∧ ∀ options : Options, d.merge options.write = .ok options := by
  refine ⟨fun options => ?_, ?_, fun options => ?_⟩
  · rw [merge_object d h]
    exact readMembers_eq_ok_iff h.nodup
  · rw [merge_object {} h, Options.read, Form.read_object_of_optional Options.not_required]
    rfl
  · rw [Options.write, Form.write_eq, merge_object d (Form.isOrdered_written options)]
    refine Form.readMembers_written Options.isLawful_form fun m hm hnone => ?_
    have hsome := (Options.exists_hasPlace hm).choose_spec.isSome_write options
    rw [hnone] at hsome
    cases hsome

/-- A flag of the request hides that of the defaults, and a null is an absent text. -/
theorem prefix_lays_over :
    let d : Defaults := { redactMissing := true, showSender := true }
    let members : Members :=
      [("brand_logo".toList, .null), ("prefix".toList, .string "GDS".toList),
        ("show_prefix".toList, .bool false)]
    members.IsOrdered
      ∧ d.merge (.object members) = .ok
        { serviceName := some "GDS".toList, showServiceName := false, showSender := true,
          redactMissing := true } := by
  intro d members
  have hordered : members.IsOrdered := by decide +kernel
  have hsettings : ∀ member ∈ members, Options.IsSetting member.1 member.2 := by
    refine List.forall_mem_cons.2 ⟨Or.inr ⟨by decide, Or.inl rfl⟩, List.forall_mem_cons.2
      ⟨Or.inr ⟨by decide, Or.inr ⟨_, rfl⟩⟩, List.forall_mem_singleton.2
        (Or.inl ⟨by decide, _, rfl⟩)⟩⟩
  exact ⟨hordered, ((merge_lays_over d hordered).1 _).2 ⟨hsettings, rfl⟩⟩

end Defaults

end MessageTemplate

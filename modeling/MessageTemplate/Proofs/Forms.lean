/-
# Records read by their forms

A form is lawful when each of its members sets a part of the record that the
others leave alone, and reads what it writes.  Two facts tell what such a form
reads from the members of an object.  A record is read exactly if every name is
known and the record agrees with every member: reading a member that is given
into the record changes nothing, and a member that is not given is as before
(`Form.readMembers_eq_ok_iff`).  A fault is reported exactly if it is that of
the first member with a fault (`Form.readMembers_eq_error_iff`).

So a record is read back from what is written of it (`Form.read_write`), and
when other members are put into what is written of a record, reading the whole
is reading these into the record (`Form.read_overlay`).
-/
import Mathlib
import MessageTemplate.Proofs.Members
import MessageTemplate.Record.Form

namespace MessageTemplate.Record

open Json (Members)

variable {α β : Type}

/-! ## Single values -/

theorem readFlag_eq_ok_iff {value : Json} {b : Bool} : readFlag value = .ok b ↔ value = .bool b := by
  cases value <;> simp [readFlag]

theorem readText_eq_ok_iff {value : Json} {t : Text} :
    readText value = .ok t ↔ value = .string t := by
  cases value <;> simp [readText]

/-- A text that may be absent is read from what is written of it. -/
theorem readOptionalText_eq_ok_iff {value : Json} {t : Option Text} :
    readOptionalText value = .ok t ↔ value = writeOptionalText t := by
  cases value <;> cases t <;> simp [readOptionalText, readText, writeOptionalText, Except.map]

theorem writeOptionalText_inj {t t' : Option Text} :
    writeOptionalText t = writeOptionalText t' ↔ t = t' := by
  cases t <;> cases t' <;> simp [writeOptionalText]

/-! ## Lawful members -/

/-- A member whose part of a record is found by `get` and put in by `set`, and
stands in JSON as `encode` and `decode` say. -/
structure Member.IsLens (m : Member α) (decode : Json → Except Fault β)
    (encode : β → Option Json) (get : α → β) (set : β → α → α) : Prop where
  read_eq : ∀ value record, m.read value record = (decode value).map fun b => set b record
  write_eq : ∀ record, m.write record = encode (get record)
  get_set : ∀ b record, get (set b record) = b
  set_get : ∀ record, set (get record) record = record
  encode_injective : Function.Injective encode
  decode_of_encode : ∀ b value, encode b = some value → decode value = .ok b

/-- A member that reads what it writes, and reads a value into every record alike. -/
structure Member.IsLawful (m : Member α) : Prop where
  /-- Whether a value is refused, and why, does not depend on the record. -/
  refuses : ∀ {value record record' fault}, m.read value record = .error fault →
    m.read value record' = .error fault
  /-- A value is written alike from all records it was read into. -/
  settles : ∀ {value before after before' after'}, m.read value before = .ok after →
    m.read value before' = .ok after' → m.write after = m.write after'
  /-- Reading a value changes nothing where it would be written alike. -/
  holds : ∀ {value before after record}, m.read value before = .ok after →
    m.write record = m.write after → m.read value record = .ok record
  /-- Reading what is written changes nothing. -/
  rereads : ∀ {value record}, m.write record = some value → m.read value record = .ok record

section

variable {m : Member α} {decode : Json → Except Fault β} {encode : β → Option Json} {get : α → β}
  {set : β → α → α}

/-- What was read is the record with the value put in. -/
theorem Member.IsLens.exists_of_read (h : m.IsLens decode encode get set) {value : Json}
    {before after : α} (hread : m.read value before = .ok after) :
    ∃ b, decode value = .ok b ∧ after = set b before := by
  rw [h.read_eq] at hread
  cases hdecode : decode value with
  | error fault =>
    rw [hdecode] at hread
    cases hread
  | ok b =>
    rw [hdecode] at hread
    exact ⟨b, rfl, (Except.ok.inj hread).symm⟩

/-- Reading changes nothing exactly where the record has the value. -/
theorem Member.IsLens.read_eq_self_iff (h : m.IsLens decode encode get set) {value : Json}
    {record : α} : m.read value record = .ok record ↔ decode value = .ok (get record) := by
  constructor
  · intro hread
    obtain ⟨b, hb, hrecord⟩ := h.exists_of_read hread
    rw [hb, hrecord, h.get_set]
  · intro hdecode
    rw [h.read_eq, hdecode]
    exact congrArg Except.ok (h.set_get record)

theorem Member.IsLens.isLawful (h : m.IsLens decode encode get set) : m.IsLawful := by
  constructor
  · intro value record record' fault hfault
    rw [h.read_eq] at hfault ⊢
    cases hdecode : decode value with
    | error _ =>
      rw [hdecode] at hfault
      cases hfault
      rfl
    | ok b =>
      rw [hdecode] at hfault
      cases hfault
  · intro value before after before' after' hafter hafter'
    obtain ⟨b, hb, rfl⟩ := h.exists_of_read hafter
    obtain ⟨b', hb', rfl⟩ := h.exists_of_read hafter'
    rw [h.write_eq, h.write_eq, h.get_set, h.get_set, Except.ok.inj (hb.symm.trans hb')]
  · intro value before after record hafter hwrite
    obtain ⟨b, hb, rfl⟩ := h.exists_of_read hafter
    rw [h.write_eq, h.write_eq, h.get_set] at hwrite
    rw [← h.encode_injective hwrite] at hb
    exact h.read_eq_self_iff.2 hb
  · intro value record hwrite
    rw [h.write_eq] at hwrite
    exact h.read_eq_self_iff.2 (h.decode_of_encode _ _ hwrite)

end

@[simp] theorem Member.name_flag {name : Text} {get : α → Bool} {set : Bool → α → α} :
    (Member.flag name get set).name = name :=
  rfl

@[simp] theorem Member.name_optionalText {name : Text} {get : α → Option Text}
    {set : Option Text → α → α} : (Member.optionalText name get set).name = name :=
  rfl

theorem Member.isLens_flag {name : Text} {get : α → Bool} {set : Bool → α → α}
    (hget : ∀ b record, get (set b record) = b) (hset : ∀ record, set (get record) record = record) :
    (Member.flag name get set).IsLens readFlag (fun b => some (.bool b)) get set where
  read_eq _ _ := rfl
  write_eq _ := rfl
  get_set := hget
  set_get := hset
  encode_injective _ _ h := Json.bool.inj (Option.some.inj h)
  decode_of_encode _ _ h := readFlag_eq_ok_iff.2 (Option.some.inj h).symm

theorem Member.isLens_optionalText {name : Text} {get : α → Option Text}
    {set : Option Text → α → α} (hget : ∀ t record, get (set t record) = t)
    (hset : ∀ record, set (get record) record = record) :
    (Member.optionalText name get set).IsLens readOptionalText
      (fun t => some (writeOptionalText t)) get set where
  read_eq _ _ := rfl
  write_eq _ := rfl
  get_set := hget
  set_get := hset
  encode_injective _ _ h := writeOptionalText_inj.1 (Option.some.inj h)
  decode_of_encode _ _ h := readOptionalText_eq_ok_iff.2 (Option.some.inj h).symm

/-! ## Lawful forms -/

/-- What the members of a form write of a record, one after the other. -/
def Form.row (form : Form α) (record : α) : List (Option Json) :=
  form.members.map fun m => m.write record

/-- Whether reading a member changes nothing of what the form writes but the
entry at the member's place. -/
def Form.ChangesOnly (form : Form α) (m : Member α) (place : Nat) : Prop :=
  ∀ {value before after}, m.read value before = .ok after →
    form.row after = (form.row before).set place (m.write after)

theorem Member.IsLens.changesOnly {form : Form α} {m : Member α} {place : Nat}
    {decode : Json → Except Fault β} {encode : β → Option Json} {get : α → β} {set : β → α → α}
    (h : m.IsLens decode encode get set)
    (hset : ∀ b record,
      form.row (set b record) = (form.row record).set place (m.write (set b record))) :
    form.ChangesOnly m place := by
  intro value before after hread
  obtain ⟨b, -, rfl⟩ := h.exists_of_read hread
  exact hset b before

/-- A closed form of lawful members, each apart from the others, that make up the record. -/
structure Form.IsLawful (form : Form α) : Prop where
  closed : form.closed = true
  nodup : form.names.Nodup
  lawful : ∀ m ∈ form.members, m.IsLawful
  changesOnly : ∀ p ∈ form.members.zipIdx, form.ChangesOnly p.1 p.2
  row_injective : Function.Injective form.row

/-- What is wrong with a member of an object. -/
def Form.fault? (form : Form α) (record : α) (member : Text × Json) : Option Fault :=
  match form.readMember record member.1 member.2 with
  | .ok _ => none
  | .error fault => some fault

/-- Whether a record agrees with what an object says of a member: a value given
is already there, and what is not given is as before. -/
def Member.Agrees (m : Member α) (members : Members) (before after : α) : Prop :=
  match members.lookup m.name with
  | some value => m.read value after = .ok after
  | none => m.write after = m.write before

theorem Member.agrees_of_given {m : Member α} {members : Members} {value : Json}
    (h : members.lookup m.name = some value) (before after : α) :
    m.Agrees members before after ↔ m.read value after = .ok after := by
  rw [Agrees, h]

theorem Member.agrees_of_not_given {m : Member α} {members : Members}
    (h : members.lookup m.name = none) (before after : α) :
    m.Agrees members before after ↔ m.write after = m.write before := by
  rw [Agrees, h]

section

variable {m : Member α} {decode : Json → Except Fault β} {encode : β → Option Json} {get : α → β}
  {set : β → α → α}

/-- A record agrees with a member whose value it has, or has as before. -/
theorem Member.IsLens.agrees_iff (h : m.IsLens decode encode get set) (members : Members)
    (before after : α) :
    m.Agrees members before after ↔
      match members.lookup m.name with
      | some value => decode value = .ok (get after)
      | none => get after = get before := by
  cases hlookup : members.lookup m.name with
  | some value => exact (agrees_of_given hlookup before after).trans h.read_eq_self_iff
  | none =>
    rw [agrees_of_not_given hlookup, h.write_eq, h.write_eq]
    exact h.encode_injective.eq_iff

/-- A record agrees with a member that is there if it has its value. -/
theorem Member.IsLens.agrees_and_mem_iff (h : m.IsLens decode encode get set) (members : Members)
    (before after : α) :
    (m.Agrees members before after ∧ m.name ∈ members.names)
      ↔ ∃ value, members.lookup m.name = some value ∧ decode value = .ok (get after) := by
  rw [h.agrees_iff, Members.mem_names_iff]
  cases members.lookup m.name <;> simp

end

namespace Form

variable {form : Form α} {members others : Members} {m : Member α} {before after : α}

theorem mem_names {name : Text} : name ∈ form.names ↔ ∃ m ∈ form.members, m.name = name :=
  List.mem_map

/-- The members of a lawful form are told by their names. -/
theorem IsLawful.eq_of_name (h : form.IsLawful) {m' : Member α} (hm : m ∈ form.members)
    (hm' : m' ∈ form.members) (hname : m.name = m'.name) : m = m' :=
  List.inj_on_of_nodup_map h.nodup hm hm' hname

/-- Reading a member leaves the others as they were. -/
theorem IsLawful.write_eq_of_read (h : form.IsLawful) {m' : Member α} {value : Json}
    (hm : m ∈ form.members) (hm' : m' ∈ form.members) (hname : m.name ≠ m'.name)
    (hread : m.read value before = .ok after) : m'.write after = m'.write before := by
  obtain ⟨i, hi, rfl⟩ := List.getElem_of_mem hm
  obtain ⟨j, hj, rfl⟩ := List.getElem_of_mem hm'
  have hij : i ≠ j := by
    rintro rfl
    exact hname rfl
  have hplace : (form.members[i], i) ∈ form.members.zipIdx :=
    List.mk_mem_zipIdx_iff_getElem?.2 (List.getElem?_eq_getElem hi)
  have hrow := congrArg (fun row => row[j]?) (h.changesOnly _ hplace hread)
  simpa only [row, List.getElem?_set_ne hij, List.getElem?_map, List.getElem?_eq_getElem hj,
    Option.map_some, Option.some.injEq] using hrow

/-- A member is read under its name. -/
theorem IsLawful.readMember_of_mem (h : form.IsLawful) (hm : m ∈ form.members) (record : α)
    (value : Json) : form.readMember record m.name value = m.read value record := by
  have hfind : (form.members.find? fun member => member.name == m.name) = some m := by
    cases hfound : form.members.find? fun member => member.name == m.name with
    | none =>
      have hnone := List.find?_eq_none.1 hfound m hm
      exact absurd (beq_self_eq_true m.name) hnone
    | some m' =>
      obtain ⟨hname, _⟩ := List.find?_eq_some_iff_append.1 hfound
      rw [h.eq_of_name (List.mem_of_find?_eq_some hfound) hm (eq_of_beq hname)]
  rw [readMember, hfind]

/-- A member of another name is refused. -/
theorem IsLawful.readMember_of_not_mem (h : form.IsLawful) {name : Text}
    (hname : name ∉ form.names) (record : α) (value : Json) :
    form.readMember record name value = .error (.unknownMember name form.names) := by
  have hfind : (form.members.find? fun member => member.name == name) = none := by
    rw [List.find?_eq_none]
    intro m hm heq
    exact hname (mem_names.2 ⟨m, hm, eq_of_beq heq⟩)
  rw [readMember, hfind, h.closed]
  rfl

/-! ## Faults -/

/-- What is wrong with a member does not depend on the record. -/
theorem IsLawful.fault?_eq (h : form.IsLawful) (record record' : α) :
    form.fault? record = form.fault? record' := by
  funext ⟨name, value⟩
  by_cases hname : name ∈ form.names
  · obtain ⟨m, hm, rfl⟩ := mem_names.1 hname
    rw [fault?, fault?, h.readMember_of_mem hm, h.readMember_of_mem hm]
    cases hread : m.read value record with
    | error fault => rw [(h.lawful m hm).refuses hread]
    | ok after =>
      cases hread' : m.read value record' with
      | error fault =>
        rw [(h.lawful m hm).refuses hread'] at hread
        cases hread
      | ok after' => rfl
  · rw [fault?, fault?, h.readMember_of_not_mem hname, h.readMember_of_not_mem hname]

/-- **Faults.**  The fault of an object is that of its first member with a fault. -/
theorem readMembers_eq_error_iff (h : form.IsLawful) {fault : Fault} :
    form.readMembers before members = .error fault
      ↔ members.findSome? (form.fault? before) = some fault := by
  induction members generalizing before with
  | nil => simp [readMembers]
  | cons member rest ih =>
    obtain ⟨name, value⟩ := member
    rw [readMembers, List.findSome?_cons, fault?]
    cases hread : form.readMember before name value with
    | error fault' => simp [bind, Except.bind]
    | ok middle =>
      rw [h.fault?_eq before middle]
      exact ih

/-! ## Records read -/

/-- Once a member was read, a record agrees with it and the rest if it agrees
with the rest from there on. -/
theorem IsLawful.agrees_cons_iff (h : form.IsLawful) {value : Json} {rest : Members}
    {middle : α} (hm : m ∈ form.members) (hname : m.name ∉ rest.names)
    (hread : m.read value before = .ok middle) {m' : Member α} (hm' : m' ∈ form.members) :
    m'.Agrees ((m.name, value) :: rest) before after ↔ m'.Agrees rest middle after := by
  by_cases hsame : m'.name = m.name
  · obtain rfl := h.eq_of_name hm' hm hsame
    rw [Member.agrees_of_given (by rw [Members.lookup_cons, if_pos rfl]),
      Member.agrees_of_not_given (Members.lookup_eq_none_iff.2 hname)]
    exact ⟨fun hafter => (h.lawful m' hm).settles hafter hread,
      fun hafter => (h.lawful m' hm).holds hread hafter⟩
  · rw [Member.Agrees, Member.Agrees, Members.lookup_cons, if_neg hsame,
      h.write_eq_of_read hm hm' (Ne.symm hsame) hread]

/-- **Records.**  A record is read from members if their names are known and it
agrees with each of them. -/
theorem readMembers_eq_ok_iff (h : form.IsLawful) (hnames : members.names.Nodup) :
    form.readMembers before members = .ok after
      ↔ (∀ name ∈ members.names, name ∈ form.names)
        ∧ ∀ m ∈ form.members, m.Agrees members before after := by
  induction members generalizing before with
  | nil =>
    rw [readMembers, Except.ok.injEq]
    constructor
    · rintro rfl
      exact ⟨fun _ hname => absurd hname List.not_mem_nil, fun _ _ => rfl⟩
    · rintro ⟨-, hagrees⟩
      exact (h.row_injective (List.map_congr_left hagrees)).symm
  | cons member rest ih =>
    obtain ⟨name, value⟩ := member
    obtain ⟨hname, hrest⟩ := List.nodup_cons.1 hnames
    have hcons : (∀ n ∈ Members.names ((name, value) :: rest), n ∈ form.names)
        ↔ name ∈ form.names ∧ ∀ n ∈ Members.names rest, n ∈ form.names := List.forall_mem_cons
    rw [readMembers, hcons]
    by_cases hknown : name ∈ form.names
    · obtain ⟨m, hm, rfl⟩ := mem_names.1 hknown
      rw [h.readMember_of_mem hm]
      cases hread : m.read value before with
      | error fault =>
        -- no record agrees with a value that is refused
        refine ⟨fun hok => (nomatch hok), fun ⟨_, hagrees⟩ => ?_⟩
        have hagree := (Member.agrees_of_given (by rw [Members.lookup_cons, if_pos rfl])
          before after).1 (hagrees m hm)
        rw [(h.lawful m hm).refuses hread] at hagree
        cases hagree
      | ok middle =>
        have hagrees : (∀ m' ∈ form.members, m'.Agrees ((m.name, value) :: rest) before after)
            ↔ ∀ m' ∈ form.members, m'.Agrees rest middle after :=
          forall₂_congr fun m' hm' => h.agrees_cons_iff hm hname hread hm'
        rw [hagrees, and_assoc, and_iff_right hknown]
        exact ih hrest
    · rw [h.readMember_of_not_mem hknown]
      exact ⟨fun hok => (nomatch hok), fun hagrees => absurd hagrees.1.1 hknown⟩

/-- No required member is missing. -/
theorem missing?_eq_none_iff :
    form.missing? members = none
      ↔ ∀ m ∈ form.members, m.required = true → m.name ∈ members.names := by
  rw [missing?, List.find?_eq_none]
  refine forall₂_congr fun m _ => ?_
  rw [Bool.and_eq_true, Option.isNone_iff_eq_none, Members.lookup_eq_none_iff, not_and, not_not]

/-- An object is read if its members are and no required one is missing. -/
theorem read_object_eq_ok_iff :
    form.read before (.object members) = .ok after
      ↔ form.readMembers before members = .ok after
        ∧ ∀ m ∈ form.members, m.required = true → m.name ∈ members.names := by
  rw [← missing?_eq_none_iff, read]
  cases form.readMembers before members with
  | error fault => simp [bind, Except.bind]
  | ok record => cases form.missing? members <;> simp [bind, Except.bind]

/-- Where no member is required, an object is read if its members are. -/
theorem read_object_of_optional (h : ∀ m ∈ form.members, m.required = false) :
    form.read before (.object members) = form.readMembers before members := by
  have hmissing : form.missing? members = none := by
    rw [missing?_eq_none_iff]
    intro m hm hrequired
    rw [h m hm] at hrequired
    cases hrequired
  rw [read]
  cases form.readMembers before members with
  | error fault => rfl
  | ok record => simp [bind, Except.bind, hmissing]

/-! ## Records written -/

/-- What the members write of a record, in the order of the form. -/
def writes (form : Form α) (record : α) : Members :=
  form.members.filterMap fun m => (m.write record).map fun value => (m.name, value)

/-- The members written of a record, in the order of their names. -/
def written (form : Form α) (record : α) : Members :=
  Members.insertAll [] (form.writes record)

theorem write_eq (record : α) : form.write record = .object (form.written record) := by
  rw [write, written, writes, Members.insertAll, List.foldl_filterMap]
  congr 2
  funext members m
  cases m.write record <;> rfl

theorem mem_writes {record : α} {name : Text} {value : Json} :
    (name, value) ∈ form.writes record
      ↔ ∃ m ∈ form.members, m.name = name ∧ m.write record = some value := by
  simp only [writes, List.mem_filterMap, Option.map_eq_some_iff, Prod.mk.injEq]
  refine exists_congr fun m => and_congr_right fun _ => ?_
  constructor
  · rintro ⟨v, hwrite, rfl, rfl⟩
    exact ⟨rfl, hwrite⟩
  · rintro ⟨rfl, hwrite⟩
    exact ⟨value, hwrite, rfl, rfl⟩

theorem IsLawful.nodup_writes (h : form.IsLawful) (record : α) :
    (form.writes record).names.Nodup := by
  have hnodup : form.members.Pairwise fun m m' => m.name ≠ m'.name :=
    List.pairwise_map.1 h.nodup
  rw [Members.names, writes, List.map_filterMap]
  refine List.pairwise_filterMap.2 (hnodup.imp fun hne name hname name' hname' => ?_)
  simp only [Option.map_map, Option.map_eq_some_iff] at hname hname'
  obtain ⟨-, -, rfl⟩ := hname
  obtain ⟨-, -, rfl⟩ := hname'
  exact hne

theorem isOrdered_written (record : α) : (form.written record).IsOrdered :=
  Members.isOrdered_nil.insertAll _

theorem IsLawful.lookup_written_eq (h : form.IsLawful) (record : α) (name : Text) :
    (form.written record).lookup name = (form.writes record).lookup name := by
  rw [written, Members.lookup_insertAll (h.nodup_writes record), List.lookup_nil, Option.or_none]

/-- What is written under the name of a member is what the member writes. -/
theorem IsLawful.lookup_written (h : form.IsLawful) (hm : m ∈ form.members) (record : α) :
    (form.written record).lookup m.name = m.write record := by
  ext value
  rw [h.lookup_written_eq, Members.lookup_eq_some_iff (h.nodup_writes record), mem_writes]
  constructor
  · rintro ⟨m', hm', hname, hwrite⟩
    rwa [h.eq_of_name hm' hm hname] at hwrite
  · exact fun hwrite => ⟨m, hm, rfl, hwrite⟩

/-- Only members of the form are written. -/
theorem IsLawful.mem_names_of_mem_written (h : form.IsLawful) {record : α} {name : Text}
    (hname : name ∈ (form.written record).names) : name ∈ form.names := by
  by_contra hunknown
  refine Members.lookup_eq_none_iff.1 ?_ hname
  rw [h.lookup_written_eq, Members.lookup_eq_none_iff]
  intro hwrites
  obtain ⟨⟨n, value⟩, hmem, rfl⟩ := List.mem_map.1 hwrites
  obtain ⟨m, hm, hmname, -⟩ := mem_writes.1 hmem
  exact hunknown (mem_names.2 ⟨m, hm, hmname⟩)

/-- What is written of a record is read into any record in which what is left out
is absent as well, and gives the record. -/
theorem readMembers_written (h : form.IsLawful) {record : α}
    (hleft : ∀ m ∈ form.members, m.write record = none → m.write before = none) :
    form.readMembers before (form.written record) = .ok record := by
  rw [readMembers_eq_ok_iff h (isOrdered_written record).nodup]
  refine ⟨fun _ => h.mem_names_of_mem_written, fun m hm => ?_⟩
  have hlookup := h.lookup_written hm record
  cases hwrite : m.write record with
  | none =>
    rw [Member.agrees_of_not_given (hlookup.trans hwrite), hwrite, hleft m hm hwrite]
  | some value =>
    rw [Member.agrees_of_given (hlookup.trans hwrite)]
    exact (h.lawful m hm).rereads hwrite

/-- **Reading back.**  A record of which the required members are written is read
back from what is written of it. -/
theorem read_write (h : form.IsLawful) {record : α}
    (hleft : ∀ m ∈ form.members, m.write record = none →
      m.required = false ∧ m.write before = none) :
    form.read before (form.write record) = .ok record := by
  rw [write_eq, read_object_eq_ok_iff]
  refine ⟨readMembers_written h fun m hm hwrite => (hleft m hm hwrite).2, fun m hm hrequired => ?_⟩
  by_contra hmissing
  rw [← Members.lookup_eq_none_iff, h.lookup_written hm] at hmissing
  rw [(hleft m hm hmissing).1] at hrequired
  cases hrequired

/-! ## Members put into what is written -/

/-- Nothing is wrong with what is written. -/
theorem IsLawful.fault?_of_mem_written (h : form.IsLawful) {record : α} {member : Text × Json}
    (hmember : member ∈ form.written record) (before : α) :
    form.fault? before member = none := by
  obtain ⟨name, value⟩ := member
  have hnames := h.mem_names_of_mem_written (Members.mem_names_of_mem hmember)
  obtain ⟨m, hm, rfl⟩ := mem_names.1 hnames
  have hwrite : m.write record = some value := by
    rw [← h.lookup_written hm, Members.lookup_eq_some_iff (isOrdered_written record).nodup]
    exact hmember
  rw [h.fault?_eq before record, fault?, h.readMember_of_mem hm,
    (h.lawful m hm).rereads hwrite]

/-- In the whole there is, of each member, what is put in or else what was written. -/
theorem IsLawful.lookup_insertAll_written (h : form.IsLawful) (hm : m ∈ form.members)
    (hothers : others.names.Nodup) (record : α) :
    (Members.insertAll (form.written record) others).lookup m.name
      = (others.lookup m.name).or (m.write record) := by
  rw [Members.lookup_insertAll hothers, h.lookup_written hm]

/-- A record agrees with the whole where it agrees with what is put in, as
compared with the record that was written. -/
theorem IsLawful.agrees_insertAll_written_iff (h : form.IsLawful) (hm : m ∈ form.members)
    {record : α} (hwritten : (m.write record).isSome) (hothers : others.names.Nodup) :
    m.Agrees (Members.insertAll (form.written record) others) before after
      ↔ m.Agrees others record after := by
  have hfound := h.lookup_insertAll_written hm hothers record
  cases hgiven : others.lookup m.name with
  | some value =>
    rw [hgiven, Option.some_or] at hfound
    rw [Member.agrees_of_given hfound, Member.agrees_of_given hgiven]
  | none =>
    obtain ⟨value, hvalue⟩ := Option.isSome_iff_exists.1 hwritten
    rw [hgiven, Option.none_or, hvalue] at hfound
    rw [Member.agrees_of_given hfound, Member.agrees_of_not_given hgiven]
    -- what is not put in is read as it was written
    exact ⟨fun hread => (h.lawful m hm).settles hread ((h.lawful m hm).rereads hvalue),
      fun hwrite => (h.lawful m hm).rereads (hwrite.trans hvalue)⟩

/-- **Overlay.**  When other members are put into what is written of a record,
reading the whole is reading these members into the record, the fault included
if there is one. -/
theorem read_overlay (h : form.IsLawful) {record : α}
    (hwritten : ∀ m ∈ form.members, (m.write record).isSome) (hothers : others.IsOrdered) :
    form.read before ((form.write record).overlay (.object others))
      = form.readMembers record others := by
  have hbase : (form.written record).IsOrdered := isOrdered_written record
  rw [write_eq, Json.overlay]
  cases hread : form.readMembers record others with
  | ok after =>
    obtain ⟨hknown, hagrees⟩ := (readMembers_eq_ok_iff h hothers.nodup).1 hread
    rw [read_object_eq_ok_iff, readMembers_eq_ok_iff h (hbase.insertAll others).nodup]
    refine ⟨⟨fun name hname => ?_, fun m hm => ?_⟩, fun m hm _ => ?_⟩
    · obtain ⟨member, hmember, rfl⟩ := List.mem_map.1 hname
      rcases (Members.mem_insertAll hbase hothers).1 hmember with hmem | ⟨hmem, -⟩
      · exact hknown _ (Members.mem_names_of_mem hmem)
      · exact h.mem_names_of_mem_written (Members.mem_names_of_mem hmem)
    · rw [h.agrees_insertAll_written_iff hm (hwritten m hm) hothers.nodup]
      exact hagrees m hm
    · obtain ⟨value, hvalue⟩ := Option.isSome_iff_exists.1 (hwritten m hm)
      rw [Members.mem_names_iff, h.lookup_insertAll_written hm hothers.nodup, hvalue]
      cases others.lookup m.name <;> simp
  | error fault =>
    have hfault : form.readMembers before (Members.insertAll (form.written record) others)
        = .error fault := by
      rw [readMembers_eq_error_iff h, Members.findSome?_insertAll hbase hothers
        fun _ hmember => h.fault?_of_mem_written hmember before, h.fault?_eq before record]
      exact (readMembers_eq_error_iff h).1 hread
    rw [read, hfault]
    rfl

end Form

end MessageTemplate.Record

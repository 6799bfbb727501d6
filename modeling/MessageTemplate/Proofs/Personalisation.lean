/-
# Personalisations and the order of their names

A personalisation is made by putting in one value after the other, and names
are trimmed when they are put in.  So what it finds under a name is the value
given last under a name that trims to the same (`Personalisation.stored?_ofList`),
what a value replaces is the one given last before it
(`Personalisation.replaceAll_ofList`), and the size is the number of trimmed
names (`Personalisation.size_ofList`).

The size does not depend on the order in which the values are given, what is
found under a name only if names that trim to the same have the same value
(`Personalisation.orders_agree_iff`).
-/
import Mathlib
import MessageTemplate.Personalisation.Record

namespace MessageTemplate

/-- Only the null counts as absent. -/
theorem Value.isNull_iff {v : Value} : v.isNull = true ↔ v = .null := by
  cases v <;> simp [isNull]

/-- Two values that are found alike, a null not at all, are the same. -/
theorem Value.eq_of_found_eq {v w : Value}
    (h : (some v).filter (fun value => !value.isNull)
      = (some w).filter (fun value => !value.isNull)) : v = w := by
  cases hv : v.isNull with
  | true =>
    cases hw : w.isNull with
    | true => rw [isNull_iff.1 hv, isNull_iff.1 hw]
    | false => simp [Option.filter, hv, hw] at h
  | false =>
    cases hw : w.isNull with
    | true => simp [Option.filter, hv, hw] at h
    | false => simpa [Option.filter, hv, hw] using h

namespace Personalisation

/-! ## The value given last -/

/-- The value given last under a name that trims to the same. -/
def lastGiven? (values : List (Text × Value)) (name : Text) : Option Value :=
  ((values.filter fun e => e.1.trim = name.trim).getLast?).map Prod.snd

/-- A further value hides those given before under its trimmed name. -/
theorem lastGiven?_concat (values : List (Text × Value)) (e : Text × Value) (name : Text) :
    lastGiven? (values ++ [e]) name
      = if name.trim = e.1.trim then some e.2 else lastGiven? values name := by
  unfold lastGiven?
  rw [List.filter_append]
  by_cases h : name.trim = e.1.trim
  · rw [if_pos h, List.filter_cons_of_pos (by simp [h]), List.filter_nil, List.getLast?_concat,
      Option.map_some]
  · rw [if_neg h, List.filter_cons_of_neg (by simp [Ne.symm h]), List.filter_nil, List.append_nil]

/-- There is a value under a name exactly if one is given under a name that
trims to the same. -/
theorem lastGiven?_eq_none_iff {values : List (Text × Value)} {name : Text} :
    lastGiven? values name = none ↔ ∀ e ∈ values, e.1.trim ≠ name.trim := by
  unfold lastGiven?
  rw [Option.map_eq_none_iff, List.getLast?_eq_none_iff, List.filter_eq_nil_iff]
  simp only [decide_eq_true_eq]

/-- The value under a name is given under a name that trims to the same. -/
theorem exists_mem_of_lastGiven? {values : List (Text × Value)} {name : Text} {v : Value}
    (h : lastGiven? values name = some v) : ∃ e ∈ values, e.1.trim = name.trim ∧ e.2 = v := by
  obtain ⟨e, he, hv⟩ := Option.map_eq_some_iff.1 h
  have hmem := List.mem_filter.1 (List.mem_of_getLast? he)
  exact ⟨e, hmem.1, of_decide_eq_true hmem.2, hv⟩

/-! ## Personalisations of lists -/

/-- A further value is put in last. -/
theorem ofList_concat (values : List (Text × Value)) (e : Text × Value) :
    ofList (values ++ [e]) = (ofList values).insert e.1 e.2 := by
  rw [ofList, List.foldl_append]
  rfl

/-- **Look-up.**  What is stored under a name is the value given last. -/
theorem stored?_ofList (values : List (Text × Value)) (name : Text) :
    (ofList values).stored? name = lastGiven? values name := by
  induction values using List.reverseRecOn with
  | nil => rfl
  | append_singleton values e ih =>
    rw [ofList_concat, stored?_insert, lastGiven?_concat, ih]

/-- The names of the entries are the trimmed names. -/
theorem mem_names_ofList {values : List (Text × Value)} {name : Text} :
    name ∈ (ofList values).entries.names ↔ name ∈ values.map fun e => e.1.trim := by
  induction values using List.reverseRecOn with
  | nil => rfl
  | append_singleton values e ih =>
    rw [ofList_concat, List.map_append, List.mem_append, ← ih]
    show name ∈ ((ofList values).entries.put e.1.trim e.2).names ↔ _
    rw [Entries.names_put, List.map_singleton, List.mem_singleton]
    split
    · rename_i hold
      refine ⟨Or.inl, fun h => h.elim id ?_⟩
      rintro rfl
      exact hold
    · rw [List.mem_append, List.mem_singleton]

/-- **Size.**  A personalisation has as many entries as there are trimmed names. -/
theorem size_ofList (values : List (Text × Value)) :
    (ofList values).size = (values.map fun e => e.1.trim).toFinset.card := by
  have hnames : (ofList values).entries.names.toFinset
      = (values.map fun e => e.1.trim).toFinset := by
    ext name
    rw [List.mem_toFinset, List.mem_toFinset, mem_names_ofList]
  rw [← hnames, List.toFinset_card_of_nodup (ofList values).nodup, Entries.names, List.length_map,
    size]

/-! ## Values replaced -/

/-- Puts in one value after the other, and lists for each the value whose place it takes. -/
def replaceAll (p : Personalisation) :
    List (Text × Value) → List (Option Value) × Personalisation
  | [] => ([], p)
  | (name, value) :: rest =>
    let (inserted, replaced) := p.replace name value
    let (others, last) := inserted.replaceAll rest
    (replaced :: others, last)

/-- After earlier values each value takes the place of the last one under its
name, among the earlier values and those before it. -/
theorem replaceAll_ofList (earlier values : List (Text × Value)) :
    (ofList earlier).replaceAll values
      = (values.mapIdx fun i e => lastGiven? (earlier ++ values.take i) e.1,
        ofList (earlier ++ values)) := by
  induction values generalizing earlier with
  | nil => simp [replaceAll]
  | cons e rest ih =>
    have hreplace : (ofList earlier).replace e.1 e.2
        = (ofList (earlier ++ [e]), lastGiven? earlier e.1) := by
      rw [replace, ofList_concat, stored?_ofList]
    rw [replaceAll, hreplace]
    simp only [ih, List.mapIdx_cons, List.take_zero, List.append_nil, List.take_succ_cons,
      List.append_assoc, List.singleton_append]

/-- **History.**  After any values were put in one by one, a look-up finds the value
given last under the trimmed name unless that is a null; each value took the place
of the one given last before it under its trimmed name, a null included; and the
size is the number of trimmed names. -/
theorem replaceAll_keeps_last (values : List (Text × Value)) :
    (∀ name, (empty.replaceAll values).2.get? name
        = (lastGiven? values name).filter fun value => !value.isNull)
      ∧ (empty.replaceAll values).1
        = values.mapIdx (fun i e => lastGiven? (values.take i) e.1)
      ∧ (empty.replaceAll values).2.size = (values.map fun e => e.1.trim).toFinset.card := by
  have hall : empty.replaceAll values
      = (values.mapIdx fun i e => lastGiven? (values.take i) e.1, ofList values) :=
    replaceAll_ofList [] values
  rw [hall]
  refine ⟨fun name => ?_, rfl, size_ofList values⟩
  rw [get?, stored?_ofList]

/-- A null hides a value and is replaced by a later one. -/
example :
    let values : List (Text × Value) :=
      [("a".toList, .text "1".toList), (" a".toList, .null), ("a ".toList, .text "2".toList)]
    (empty.replaceAll values).1 = [none, some (.text "1".toList), some .null] := by
  cbv

/-! ## Orders -/

/-- Any given value may be the last. -/
theorem exists_perm_concat {values : List (Text × Value)} {e : Text × Value} (h : e ∈ values) :
    ∃ rest, (rest ++ [e]).Perm values := by
  obtain ⟨before, after, rfl⟩ := List.append_of_mem h
  refine ⟨before ++ after, ?_⟩
  exact (List.perm_append_singleton e _).trans List.perm_middle.symm

/-- Where names that trim to the same have the same value, the value under a
name does not depend on the order. -/
theorem lastGiven?_perm {first second : List (Text × Value)} (h : first.Perm second)
    (hsame : ∀ e ∈ second, ∀ e' ∈ second, e.1.trim = e'.1.trim → e.2 = e'.2) (name : Text) :
    lastGiven? first name = lastGiven? second name := by
  cases hfirst : lastGiven? first name with
  | none =>
    refine (lastGiven?_eq_none_iff.2 fun e he => ?_).symm
    exact lastGiven?_eq_none_iff.1 hfirst e (h.mem_iff.2 he)
  | some v =>
    obtain ⟨e, he, hname, rfl⟩ := exists_mem_of_lastGiven? hfirst
    have he := h.mem_iff.1 he
    cases hsecond : lastGiven? second name with
    | none => exact absurd hname (lastGiven?_eq_none_iff.1 hsecond e he)
    | some v =>
      obtain ⟨e', he', hname', rfl⟩ := exists_mem_of_lastGiven? hsecond
      rw [hsame e he e' he' (hname.trans hname'.symm)]

/-- **Orders.**  Any two orders of the same values give personalisations that
find the same under every name exactly if values given under names that trim
to the same are the same; and they have the same size in any case. -/
theorem orders_agree_iff (values : List (Text × Value)) :
    ((∀ first second : List (Text × Value), first.Perm values → second.Perm values →
        ∀ name, (ofList first).get? name = (ofList second).get? name)
      ↔ ∀ e ∈ values, ∀ e' ∈ values, e.1.trim = e'.1.trim → e.2 = e'.2)
    ∧ ∀ first second : List (Text × Value), first.Perm values → second.Perm values →
        (ofList first).size = (ofList second).size := by
  refine ⟨⟨fun hagree e he e' he' hname => ?_, fun hsame first second hfirst hsecond name => ?_⟩,
    fun first second hfirst hsecond => ?_⟩
  · -- one order with each of the two values last
    obtain ⟨rest, hrest⟩ := exists_perm_concat he
    obtain ⟨rest', hrest'⟩ := exists_perm_concat he'
    have hfound := hagree _ _ hrest hrest' e.1
    rw [get?, get?, stored?_ofList, stored?_ofList, lastGiven?_concat, lastGiven?_concat,
      if_pos rfl, if_pos hname] at hfound
    exact Value.eq_of_found_eq hfound
  · rw [get?, get?, stored?_ofList, stored?_ofList, lastGiven?_perm hfirst hsame,
      lastGiven?_perm hsecond hsame]
  · rw [size_ofList, size_ofList,
      List.toFinset_eq_of_perm _ _ ((hfirst.trans hsecond.symm).map fun e => e.1.trim)]

/-! ## Records -/

/-- The members of an object are put in one after the other. -/
theorem insertMembers_eq {members : Json.Members} {values : List (Text × Value)}
    (h : List.Forall₂ (fun member e => member.1 = e.1 ∧ Value.ofJson? member.2 = some e.2)
      members values) (p : Personalisation) :
    p.insertMembers members = .ok (values.foldl (fun p e => p.insert e.1 e.2) p) := by
  induction h generalizing p with
  | nil => rfl
  | @cons member e members values hmember _ ih =>
    obtain ⟨name, json⟩ := member
    obtain ⟨rfl, hvalue⟩ := hmember
    have hread : Value.read json = .ok e.2 := by rw [Value.read, hvalue]
    rw [insertMembers, hread, List.foldl_cons]
    exact ih _

/-- An object is read as the personalisation of its values in their order. -/
theorem read_object {members : Json.Members} {values : List (Text × Value)}
    (h : List.Forall₂ (fun member e => member.1 = e.1 ∧ Value.ofJson? member.2 = some e.2)
      members values) : read (.object members) = .ok (ofList values) :=
  insertMembers_eq h empty

/-- An object whose two names differ only in a blank at the front gives the
value of either, by the order in which they are put in. -/
theorem padded_name_depends_on_order :
    let members : Json.Members :=
      [(" a".toList, .string "1".toList), ("a".toList, .string "2".toList)]
    let values : List (Text × Value) :=
      [(" a".toList, .text "1".toList), ("a".toList, .text "2".toList)]
    (members.map Prod.fst).Nodup
      ∧ read (.object members) = .ok (ofList values)
      ∧ read (.object members.reverse) = .ok (ofList values.reverse)
      ∧ (ofList values).get? "a".toList = some (.text "2".toList)
      ∧ (ofList values.reverse).get? "a".toList = some (.text "1".toList)
      ∧ ¬ ∀ first second : List (Text × Value), first.Perm values → second.Perm values →
        ∀ name, (ofList first).get? name = (ofList second).get? name := by
  intro members values
  have hread : List.Forall₂ (fun member e => member.1 = e.1 ∧ Value.ofJson? member.2 = some e.2)
      members values := .cons ⟨rfl, rfl⟩ (.cons ⟨rfl, rfl⟩ .nil)
  have htwo : (ofList values).get? "a".toList = some (.text "2".toList) := by cbv
  have hone : (ofList values.reverse).get? "a".toList = some (.text "1".toList) := by cbv
  refine ⟨by decide, read_object hread, read_object (.cons ⟨rfl, rfl⟩ (.cons ⟨rfl, rfl⟩ .nil)),
    htwo, hone, fun hagree => ?_⟩
  have hsame := hagree values values.reverse (List.Perm.refl values) values.reverse_perm "a".toList
  rw [htwo, hone] at hsame
  cases hsame

end Personalisation

end MessageTemplate

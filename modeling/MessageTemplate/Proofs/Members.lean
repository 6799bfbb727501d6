/-
# Members of objects

The members of an object stand in the order of their names, and putting in a
member keeps them so (`IsOrdered.insert`).

When the members of one object are put into another, what is found under a name
is the member put in, or else the one that was there (`lookup_insertAll`).  The
members put in stand among those that were there in the order they had
(`filter_insertAll`), so that the first of them with something wrong comes first
in the whole as well (`findSome?_insertAll`).
-/
import Mathlib
import MessageTemplate.Json.Basic

namespace MessageTemplate.Json.Members

variable {members others : Members} {name : Text} {value : Json}

/-! ## The order of names -/

/-- A name comes before another in the order of their code points. -/
theorem before_iff_lt {a b : Text} : before a b = true ↔ a < b := by
  induction a generalizing b with
  | nil => cases b <;> simp [before]
  | cons c rest ih =>
    cases b with
    | nil => simp [before]
    | cons d rest' =>
      rw [List.cons_lt_cons_iff, before, Bool.or_eq_true, Bool.and_eq_true, decide_eq_true_eq,
        beq_iff_eq, ih]

/-- The names of members. -/
def names (members : Members) : List Text :=
  members.map Prod.fst

theorem mem_names_of_mem {m : Text × Json} (h : m ∈ members) : m.1 ∈ members.names :=
  List.mem_map_of_mem h

/-- Members in the order of their names, each name once. -/
def IsOrdered (members : Members) : Prop :=
  members.names.Pairwise (· < ·)

instance : Decidable members.IsOrdered :=
  inferInstanceAs (Decidable (List.Pairwise _ _))

theorem isOrdered_nil : IsOrdered [] :=
  List.Pairwise.nil

theorem isOrdered_cons_iff {rest : Members} :
    IsOrdered ((name, value) :: rest) ↔ (∀ n ∈ rest.names, name < n) ∧ rest.IsOrdered :=
  List.pairwise_cons

theorem IsOrdered.nodup (h : members.IsOrdered) : members.names.Nodup :=
  List.Pairwise.imp ne_of_lt h

theorem IsOrdered.filter (h : members.IsOrdered) (p : Text × Json → Bool) :
    IsOrdered (members.filter p) :=
  List.Pairwise.sublist (List.filter_sublist.map Prod.fst) h

/-! ## What is found under a name -/

theorem lookup_cons (name' : Text) (rest : Members) :
    List.lookup name' ((name, value) :: rest)
      = if name' = name then some value else rest.lookup name' := by
  by_cases h : name' = name
  · simp [h]
  · simp [List.lookup_cons, beq_false_of_ne h, h]

/-- Something is found under the names of the members. -/
theorem lookup_eq_none_iff : members.lookup name = none ↔ name ∉ members.names := by
  rw [List.lookup_eq_none_iff, names, List.mem_map]
  simp only [bne_iff_ne, ne_eq, not_exists, not_and]
  exact ⟨fun h m hm hname => h m hm hname.symm, fun h m hm hname => h m hm hname.symm⟩

theorem mem_names_iff : name ∈ members.names ↔ ∃ value, members.lookup name = some value := by
  rw [← Option.ne_none_iff_exists', Ne, lookup_eq_none_iff, not_not]

/-- What is found under a name is a member. -/
theorem mem_of_lookup (h : members.lookup name = some value) : (name, value) ∈ members := by
  obtain ⟨before, after, rfl, -⟩ := List.lookup_eq_some_iff.1 h
  exact List.mem_append_right _ List.mem_cons_self

/-- Where each name stands once, every member is found. -/
theorem lookup_eq_some_iff (h : members.names.Nodup) :
    members.lookup name = some value ↔ (name, value) ∈ members := by
  refine ⟨mem_of_lookup, fun hmem => ?_⟩
  induction members with
  | nil => cases hmem
  | cons m rest ih =>
    obtain ⟨n, v⟩ := m
    obtain ⟨hn, hrest⟩ := List.nodup_cons.1 h
    rw [lookup_cons]
    rcases List.mem_cons.1 hmem with heq | hmem
    · obtain ⟨rfl, rfl⟩ := Prod.mk.inj heq
      rw [if_pos rfl]
    · have hne : name ≠ n := ne_of_mem_of_not_mem (mem_names_of_mem hmem) hn
      rw [if_neg hne, ih hrest hmem]

/-- Ordered members are told by which members they are. -/
theorem IsOrdered.eq_of_mem_iff (h : members.IsOrdered) (h' : others.IsOrdered)
    (hmem : ∀ m, m ∈ members ↔ m ∈ others) : members = others := by
  have hperm := (List.perm_ext_iff_of_nodup h.nodup.of_map h'.nodup.of_map).2 hmem
  have hpairwise : members.Pairwise fun m m' => m.1 < m'.1 := List.pairwise_map.1 h
  refine hperm.eq_of_pairwise ?_ hpairwise (List.pairwise_map.1 h')
  intro m m' _ _ hlt hgt
  exact absurd hgt (lt_asymm hlt)

/-! ## Putting in one member -/

/-- A member put in is found under its name, and all else as before. -/
theorem lookup_insert (members : Members) (name name' : Text) (value : Json) :
    (insert members name value).lookup name'
      = if name' = name then some value else members.lookup name' := by
  induction members with
  | nil => rw [insert, lookup_cons]
  | cons m rest ih =>
    obtain ⟨n, v⟩ := m
    rw [insert]
    split
    · rename_i hn
      subst hn
      rw [lookup_cons, lookup_cons]
      split <;> rfl
    · rename_i hn
      split
      · rw [lookup_cons]
      · rw [lookup_cons, lookup_cons, ih]
        by_cases hname : name' = n
        · subst hname
          rw [if_pos rfl, if_pos rfl, if_neg hn]
        · rw [if_neg hname, if_neg hname]

/-- The names after a member is put in are its name and those there were. -/
theorem mem_names_insert {n : Text} (h : n ∈ names (insert members name value)) :
    n = name ∨ n ∈ members.names := by
  by_contra hnot
  obtain ⟨hname, hmem⟩ := not_or.1 hnot
  refine lookup_eq_none_iff.1 ?_ h
  rw [lookup_insert, if_neg hname, lookup_eq_none_iff]
  exact hmem

/-- Putting in a member keeps the order. -/
theorem IsOrdered.insert (h : members.IsOrdered) (name : Text) (value : Json) :
    IsOrdered (Members.insert members name value) := by
  induction members with
  | nil => exact isOrdered_cons_iff.2 ⟨fun n hn => absurd hn List.not_mem_nil, isOrdered_nil⟩
  | cons m rest ih =>
    obtain ⟨n, v⟩ := m
    obtain ⟨hn, hrest⟩ := isOrdered_cons_iff.1 h
    rw [Members.insert]
    split
    · rename_i heq
      subst heq
      exact isOrdered_cons_iff.2 ⟨hn, hrest⟩
    · rename_i hne
      split
      · rename_i hbefore
        -- the new name comes before the first one, so before all
        have hlt := before_iff_lt.1 hbefore
        refine isOrdered_cons_iff.2 ⟨fun n' hn' => ?_, h⟩
        rcases List.mem_cons.1 hn' with rfl | hn'
        · exact hlt
        · exact hlt.trans (hn n' hn')
      · rename_i hbefore
        have hlt : n < name := by
          refine lt_of_le_of_ne (not_lt.1 fun hlt => hbefore ?_) hne
          exact before_iff_lt.2 hlt
        refine isOrdered_cons_iff.2 ⟨fun n' hn' => ?_, ih hrest⟩
        rcases mem_names_insert hn' with rfl | hn'
        · exact hlt
        · exact hn n' hn'

/-! ## Putting in the members of another object -/

theorem insertAll_cons (m : Text × Json) (rest : Members) :
    insertAll members (m :: rest) = insertAll (insert members m.1 m.2) rest :=
  rfl

/-- Putting in members keeps the order. -/
theorem IsOrdered.insertAll (h : members.IsOrdered) (others : Members) :
    IsOrdered (Members.insertAll members others) := by
  induction others generalizing members with
  | nil => exact h
  | cons m rest ih => exact ih (h.insert m.1 m.2)

/-- **Overlay.**  What is found after members were put in is the member put in
under that name, or else the one there was. -/
theorem lookup_insertAll (h : others.names.Nodup) (members : Members) (name : Text) :
    (insertAll members others).lookup name = (others.lookup name).or (members.lookup name) := by
  induction others generalizing members with
  | nil => rfl
  | cons m rest ih =>
    obtain ⟨n, v⟩ := m
    obtain ⟨hn, hrest⟩ := List.nodup_cons.1 h
    rw [insertAll_cons, ih hrest, lookup_insert, lookup_cons]
    by_cases hname : name = n
    · -- the name is put in here and not once more
      subst hname
      rw [if_pos rfl, if_pos rfl, lookup_eq_none_iff.2 hn]
      rfl
    · rw [if_neg hname, if_neg hname]

/-- Among the members after others were put in are these, and those there were
under other names. -/
theorem mem_insertAll (h : members.IsOrdered) (h' : others.IsOrdered) {m : Text × Json} :
    m ∈ insertAll members others ↔ m ∈ others ∨ (m ∈ members ∧ m.1 ∉ others.names) := by
  obtain ⟨name, value⟩ := m
  rw [← lookup_eq_some_iff (h.insertAll others).nodup, lookup_insertAll h'.nodup,
    ← lookup_eq_some_iff h'.nodup, ← lookup_eq_some_iff h.nodup, ← lookup_eq_none_iff]
  cases others.lookup name <;> simp

/-- The members put in stand among those that were there in their order. -/
theorem filter_insertAll (h : members.IsOrdered) (h' : others.IsOrdered) :
    (insertAll members others).filter (fun m => m.1 ∈ others.names) = others := by
  refine ((h.insertAll others).filter _).eq_of_mem_iff h' fun m => ?_
  rw [List.mem_filter, mem_insertAll h h', decide_eq_true_eq]
  constructor
  · rintro ⟨hm | ⟨-, hnot⟩, hname⟩
    · exact hm
    · exact absurd hname hnot
  · intro hm
    exact ⟨Or.inl hm, mem_names_of_mem hm⟩

/-- **First findings.**  What none of the members there were has is found first
where it is found first in the members put in. -/
theorem findSome?_insertAll {β : Type} {f : Text × Json → Option β} (h : members.IsOrdered)
    (h' : others.IsOrdered) (hf : ∀ m ∈ members, f m = none) :
    (insertAll members others).findSome? f = others.findSome? f := by
  have hskip : ∀ m ∈ insertAll members others,
      f m = if decide (m.1 ∈ others.names) = true then f m else none := by
    intro m hm
    rcases (mem_insertAll h h').1 hm with hm | ⟨hm, -⟩
    · rw [if_pos (decide_eq_true (mem_names_of_mem hm))]
    · rw [hf m hm, ite_self]
  calc (insertAll members others).findSome? f
      = ((insertAll members others).filterMap f).head? := List.head?_filterMap.symm
    _ = (((insertAll members others).filter fun m => m.1 ∈ others.names).filterMap f).head? := by
        rw [List.filterMap_filter, List.filterMap_congr hskip]
    _ = others.findSome? f := by
        rw [filter_insertAll h h', List.head?_filterMap]

end MessageTemplate.Json.Members

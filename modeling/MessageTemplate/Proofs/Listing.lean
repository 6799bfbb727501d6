/-
# The listing of placeholders

The names of a template are listed in one pass over its nodes, which takes the
names listed so far into every conditional text and out of it again.  What is
listed can be told without the pass: `namesRead` walks the segments of a template
and the conditional texts inside them, `firstOccurrences` keeps each name at its
first place, and the listing is the one after the other (`placeholders_eq`).

An email lists its subject and its content by themselves and joins the two
lists, which gives the same as one walk through both
(`Message.placeholders_in_reading_order`).
-/
import Mathlib
import MessageTemplate.Message.Basic
import MessageTemplate.Proofs.Substitution

namespace MessageTemplate

/-! ## The walk -/

/-- The names of a template in the order in which they are read, each as often
as it is met: behind the name of a conditional come those of its own text. -/
def namesRead (t : Text) : List Text :=
  (segments t).attach.flatMap fun
    | ⟨.text _, _⟩ => []
    | ⟨.placeholder p, _⟩ =>
      match _shown : p.conditionalText? with
      | none => [p.name]
      | some shown => p.name :: namesRead shown
termination_by t.length
decreasing_by
  exact Nat.lt_trans (Placeholder.length_conditionalText?_lt _shown)
    (length_body_lt_of_mem_segments ‹_›)

/-- The names that are read are those of the nodes. -/
theorem namesRead_eq (t : Text) : namesRead t = (Node.read t).flatMap Node.names := by
  induction t using namesRead.induct with
  | case1 t ih =>
    rw [namesRead, Node.read_eq]
    conv => rhs; rw [← List.attach_map_subtype_val (segments t), List.map_map, List.flatMap_map]
    apply List.flatMap_congr
    rintro ⟨segment, hmem⟩ _
    cases segment with
    | text literal => simp [Segment.node, Node.names]
    | placeholder p =>
      simp only [Function.comp, Segment.node]
      split
      · rename_i hnone
        simp [hnone, Node.names]
      · rename_i shown hshown
        simp [hshown, Node.names, ih p hmem shown hshown]

/-! ## First occurrences -/

/-- The names of a list that do not stand in front of themselves: each name at
the first of its places. -/
def firstOccurrences (names : List Text) : List Text :=
  (names.zipIdx.filter fun place => !(names.take place.2).contains place.1).map Prod.fst

/-- A name at the end is kept if it does not stand in front. -/
theorem firstOccurrences_concat (names : List Text) (name : Text) :
    firstOccurrences (names ++ [name])
      = if name ∈ names then firstOccurrences names else firstOccurrences names ++ [name] := by
  -- the places in front see the same names in front of them as before
  have hfront :
      (names.zipIdx.filter fun place => !((names ++ [name]).take place.2).contains place.1)
        = names.zipIdx.filter fun place => !(names.take place.2).contains place.1 := by
    apply List.filter_congr
    rintro ⟨other, i⟩ hmem
    have hi : i < 0 + names.length := List.snd_lt_add_of_mem_zipIdx hmem
    rw [List.take_append_of_le_length (by omega)]
  rw [firstOccurrences, List.zipIdx_append, List.filter_append, hfront, List.map_append]
  by_cases h : name ∈ names
  · rw [if_pos h]
    simp [firstOccurrences, h]
  · rw [if_neg h]
    simp [firstOccurrences, h]

/-- The names that are kept are those of the list. -/
theorem mem_firstOccurrences {names : List Text} {name : Text} :
    name ∈ firstOccurrences names ↔ name ∈ names := by
  induction names using List.reverseRecOn with
  | nil => rfl
  | append_singleton names last ih =>
    rw [firstOccurrences_concat, List.mem_append, List.mem_singleton]
    by_cases h : last ∈ names
    · rw [if_pos h, ih]
      constructor
      · exact Or.inl
      · rintro (hmem | rfl)
        · exact hmem
        · exact h
    · rw [if_neg h, List.mem_append, List.mem_singleton, ih]

/-! ## The pass -/

theorem listName_of_mem {listed : List Text} {name : Text} (h : name ∈ listed) :
    listName listed name = listed :=
  if_pos h

theorem listName_of_not_mem {listed : List Text} {name : Text} (h : name ∉ listed) :
    listName listed name = listed ++ [name] :=
  if_neg h

/-- **One node.**  A node is listed by listing its names one after the other,
behind any names. -/
theorem Node.listNames_eq (n : Node) (listed : List Text) :
    n.listNames listed = n.names.foldl listName listed := by
  induction n generalizing listed with
  | text t => rw [listNames, names, List.foldl_nil]
  | value name => rw [listNames, names, List.foldl_cons, List.foldl_nil]
  | conditional name shown ih =>
    rw [listNames, names, List.foldl_cons, List.foldl_flatMap]
    -- the names of the condition are listed in front of those of each node shown
    apply List.foldl_ext
    intro listed n hn
    exact ih n hn listed

/-- Names that are listed one after the other are listed where they occur first. -/
theorem foldl_listName (names : List Text) : names.foldl listName [] = firstOccurrences names := by
  induction names using List.reverseRecOn with
  | nil => rfl
  | append_singleton names name ih =>
    rw [List.foldl_append, ih, firstOccurrences_concat, List.foldl_cons, List.foldl_nil]
    by_cases h : name ∈ names
    · rw [if_pos h, listName_of_mem (mem_firstOccurrences.2 h)]
    · rw [if_neg h, listName_of_not_mem fun hmem => h (mem_firstOccurrences.1 hmem)]

/-- **The listing.**  The placeholders of a template are the first occurrences
of the names that are read. -/
theorem placeholders_eq (t : Text) : placeholders t = firstOccurrences (namesRead t) := by
  rw [placeholders, namesRead_eq, ← foldl_listName, List.foldl_flatMap]
  apply List.foldl_ext
  intro listed n _
  exact n.listNames_eq listed

/-- The placeholders of a template are the names of its nodes. -/
theorem mem_placeholders {t name : Text} :
    name ∈ placeholders t ↔ ∃ n ∈ Node.read t, name ∈ n.names := by
  rw [placeholders_eq, mem_firstOccurrences, namesRead_eq, List.mem_flatMap]

/-! ## Two listings joined -/

/-- Names listed before are still listed afterwards, and so is every further name. -/
theorem mem_foldl_listName {names listed : List Text} {name : Text}
    (h : name ∈ listed ∨ name ∈ names) : name ∈ names.foldl listName listed := by
  induction names generalizing listed with
  | nil => simpa using h
  | cons first names ih =>
    rw [List.foldl_cons]
    apply ih
    by_cases hfirst : first ∈ listed
    · rw [listName_of_mem hfirst]
      rcases h with h | h
      · exact Or.inl h
      · rcases List.mem_cons.1 h with rfl | h
        · exact Or.inl hfirst
        · exact Or.inr h
    · rw [listName_of_not_mem hfirst, List.mem_append, List.mem_singleton]
      rw [List.mem_cons] at h
      tauto

/-- Behind any names, first occurrences are listed as the whole list is. -/
theorem foldl_listName_firstOccurrences (names listed : List Text) :
    (firstOccurrences names).foldl listName listed = names.foldl listName listed := by
  induction names using List.reverseRecOn with
  | nil => rfl
  | append_singleton names name ih =>
    rw [firstOccurrences_concat, List.foldl_append]
    by_cases h : name ∈ names
    · rw [if_pos h, ih, List.foldl_cons, List.foldl_nil,
        listName_of_mem (mem_foldl_listName (Or.inr h))]
    · rw [if_neg h, List.foldl_append, ih]

/-- Without repetitions a list is that of its first occurrences. -/
theorem eraseDups_eq_firstOccurrences (names : List Text) :
    names.eraseDups = firstOccurrences names := by
  induction names using List.reverseRecOn with
  | nil => rfl
  | append_singleton names name ih =>
    rw [List.eraseDups_append, ih, firstOccurrences_concat]
    by_cases h : name ∈ names
    · simp [h, List.removeAll]
    · simp [h, List.removeAll, List.eraseDups_cons]

/-- Two lists that are joined and cleared of repetitions give the first
occurrences of the joined lists, even if each was cleared before. -/
theorem firstOccurrences_append_firstOccurrences (names names' : List Text) :
    firstOccurrences (firstOccurrences names ++ firstOccurrences names')
      = firstOccurrences (names ++ names') := by
  calc firstOccurrences (firstOccurrences names ++ firstOccurrences names')
      = (firstOccurrences names').foldl listName ((firstOccurrences names).foldl listName []) := by
        rw [← foldl_listName, List.foldl_append]
    _ = names'.foldl listName (names.foldl listName []) := by
        rw [foldl_listName_firstOccurrences, foldl_listName_firstOccurrences]
    _ = firstOccurrences (names ++ names') := by
        rw [← List.foldl_append, foldl_listName]

/-- **The listing in reading order.**  The placeholders of a template are the
names met on a walk through its segments and, behind the name of each
conditional, through its own text, each at the first place where it is met.
Those of an email are the names met on a walk through its subject and then its
content. -/
theorem Message.placeholders_in_reading_order :
    (∀ t : Text, MessageTemplate.placeholders t = firstOccurrences (namesRead t))
    ∧ ∀ m : Message, m.kind.channel = .email →
      m.placeholders
        = firstOccurrences (namesRead m.draft.rawSubject ++ namesRead m.draft.spec.content) := by
  constructor
  · exact placeholders_eq
  · intro m h
    rw [placeholders, h]
    show m.draft.emailPlaceholders = _
    rw [Draft.emailPlaceholders, eraseDups_eq_firstOccurrences, placeholders_eq, placeholders_eq,
      firstOccurrences_append_firstOccurrences]

/-- An email that repeats names inside a conditional text, behind it, and in
its content. -/
theorem Message.placeholders_of_repeated_names :
    let m : Message := ⟨.emailPreview, ⟨⟨"((c)) ((d ?? ((a)) ((d))((e)))) ((b))".toList,
      some "((b)) ((a?? ((b)) ((c)))) (( a ))".toList, .email⟩, {}, .empty⟩⟩
    m.kind.channel = .email
      ∧ m.placeholders = [['b'], ['a'], ['c'], ['d'], ['e']] := by
  intro m
  have hsubject : namesRead m.draft.rawSubject = [['b'], ['a'], ['b'], ['c'], ['a']] := by cbv
  have hcontent : namesRead m.draft.spec.content
      = [['c'], ['d'], ['a'], ['d'], ['e'], ['b']] := by cbv
  refine ⟨rfl, ?_⟩
  rw [placeholders_in_reading_order.2 m rfl, hsubject, hcontent]
  decide

end MessageTemplate

/-
# Personalisations

A personalisation maps names to values.  Names are trimmed when a value is
put in and when one is looked up; a null is kept, and is counted, but looking
it up finds nothing.

The entries are read through `stored?`, the entry of a trimmed name:
`stored?_insert` says what an insertion does to it, and `size_insert` what it
does to the number of names.
-/
import MessageTemplate.Personalisation.Value

namespace MessageTemplate

/-! ## Entries -/

/-- The names and values of a personalisation, in order of first insertion. -/
abbrev Entries := List (Text × Value)

namespace Entries

/-- The names of the entries. -/
def names (entries : Entries) : List Text :=
  entries.map Prod.fst

/-- Puts a value under a name, in the place of an entry of that name if there is one. -/
def put (name : Text) (value : Value) : Entries → Entries
  | [] => [(name, value)]
  | (n, v) :: rest => if n = name then (name, value) :: rest else (n, v) :: put name value rest

/-- A name that is new goes to the end of the names, and no other changes them. -/
theorem names_put (name : Text) (value : Value) (entries : Entries) :
    names (put name value entries)
      = if name ∈ names entries then names entries else names entries ++ [name] := by
  induction entries with
  | nil => simp [put, names]
  | cons entry rest ih =>
    obtain ⟨n, v⟩ := entry
    by_cases hn : n = name
    · simp [put, names, hn]
    · have hn' : name ≠ n := fun h => hn h.symm
      have hcons : names (put name value ((n, v) :: rest)) = n :: names (put name value rest) := by
        simp [put, hn, names]
      have hmem : name ∈ names ((n, v) :: rest) ↔ name ∈ names rest := by
        simp [names, hn']
      rw [hcons, ih]
      by_cases h : name ∈ names rest
      · rw [if_pos h, if_pos (hmem.2 h)]
        rfl
      · rw [if_neg h, if_neg fun h' => h (hmem.1 h')]
        rfl

/-- Putting a value keeps the names apart. -/
theorem nodup_names_put {name : Text} {value : Value} {entries : Entries}
    (h : (names entries).Nodup) : (names (put name value entries)).Nodup := by
  rw [names_put]
  split
  · exact h
  · rename_i hname
    refine List.nodup_append.2 ⟨h, by simp, ?_⟩
    intro a ha b hb hab
    rw [hab, List.mem_singleton.1 hb] at ha
    exact hname ha

/-- What is put under a name is found there, and all else as before. -/
theorem lookup_put (name name' : Text) (value : Value) (entries : Entries) :
    (put name value entries).lookup name'
      = if name' = name then some value else entries.lookup name' := by
  induction entries with
  | nil =>
    by_cases h : name' = name
    · simp [put, h]
    · simp [put, h, List.lookup_cons, beq_false_of_ne h]
  | cons entry rest ih =>
    obtain ⟨n, v⟩ := entry
    by_cases hn : n = name
    · subst hn
      by_cases h : name' = n
      · simp [put, h]
      · simp [put, h, List.lookup_cons, beq_false_of_ne h]
    · by_cases h : name' = n
      · subst h
        simp [put, hn]
      · simp [put, hn, List.lookup_cons, beq_false_of_ne h, ih]

end Entries

/-! ## Personalisations -/

/-- A map from trimmed names to values. -/
structure Personalisation where
  entries : Entries
  nodup : entries.names.Nodup
  deriving Repr

namespace Personalisation

/-- The personalisation without any name. -/
def empty : Personalisation :=
  ⟨[], by simp [Entries.names]⟩

/-- The value put in under a name, a null included. -/
def stored? (p : Personalisation) (name : Text) : Option Value :=
  p.entries.lookup name.trim

/-- The value of a name; a null counts as absent. -/
def get? (p : Personalisation) (name : Text) : Option Value :=
  (p.stored? name).filter fun value => !value.isNull

/-- Puts a value under a name, in the place of the one there. -/
def insert (p : Personalisation) (name : Text) (value : Value) : Personalisation :=
  ⟨p.entries.put name.trim value, Entries.nodup_names_put p.nodup⟩

/-- Puts a value under a name and gives the value whose place it takes, a null included. -/
def replace (p : Personalisation) (name : Text) (value : Value) :
    Personalisation × Option Value :=
  (p.insert name value, p.stored? name)

/-- The number of names, those of nulls included. -/
def size (p : Personalisation) : Nat :=
  p.entries.length

/-- A personalisation with the given values, put in from left to right. -/
def ofList (values : List (Text × Value)) : Personalisation :=
  values.foldl (fun p (name, value) => p.insert name value) empty

@[simp] theorem stored?_empty (name : Text) : empty.stored? name = none := rfl

/-- An insertion is found under every name that trims to the same. -/
theorem stored?_insert (p : Personalisation) (name name' : Text) (value : Value) :
    (p.insert name value).stored? name'
      = if name'.trim = name.trim then some value else p.stored? name' :=
  Entries.lookup_put _ _ _ _

/-- An insertion adds a name unless it was there. -/
theorem size_insert (p : Personalisation) (name : Text) (value : Value) :
    (p.insert name value).size
      = if name.trim ∈ p.entries.names then p.size else p.size + 1 := by
  have length_names : ∀ entries : Entries, entries.names.length = entries.length := by
    intro entries
    simp [Entries.names]
  rw [size, insert, ← length_names, Entries.names_put]
  split
  · exact length_names _
  · rw [List.length_append, length_names]
    rfl

end Personalisation

end MessageTemplate

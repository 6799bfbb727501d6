/-
# Texts

A text is the list of its characters in reading order.  Lists keep every
definition below structural and let a law about a text be proved by induction
on its characters; strings of the standard library appear only where a text
enters or leaves the program.

This module holds the operations that look for one text inside another:
`Text.cut` splits a text at the first occurrence of a mark, and the lemmas say
that nothing is lost (`Text.eq_of_cut`) and that nothing is found too late
(`Text.cut_cons_of_later`).
-/
namespace MessageTemplate

/-- A text is the list of its characters in reading order. -/
abbrev Text := List Char

namespace Text

/-! ## Cutting a text at a mark -/

/-- Worker of `cut`; `before` holds the characters passed so far, latest first. -/
def cutAux (mark : Text) (before : Text) : Text → Option (Text × Text)
  | [] => if mark.isEmpty then some (before.reverse, []) else none
  | c :: rest =>
    if mark.isPrefixOf (c :: rest) then
      some (before.reverse, (c :: rest).drop mark.length)
    else
      cutAux mark (c :: before) rest

/-- The text before and the text after the first occurrence of a mark, or
`none` when the mark does not occur. -/
def cut (mark : Text) (t : Text) : Option (Text × Text) :=
  cutAux mark [] t

/-- What was passed before the search is put in front of what it finds. -/
theorem cutAux_eq (mark before t : Text) :
    cutAux mark before t = (cut mark t).map fun p => (before.reverse ++ p.1, p.2) := by
  have step : ∀ (t before more : Text),
      cutAux mark (before ++ more) t
        = (cutAux mark before t).map fun p => (more.reverse ++ p.1, p.2) := by
    intro t
    induction t with
    | nil =>
      intro before more
      simp only [cutAux]
      split <;> simp
    | cons c rest ih =>
      intro before more
      simp only [cutAux]
      split
      · simp
      · exact ih (c :: before) more
  simpa [cut] using step t [] before

/-- A mark at the very front is found there. -/
theorem cut_cons_of_found {mark rest : Text} {c : Char}
    (h : mark.isPrefixOf (c :: rest) = true) :
    cut mark (c :: rest) = some ([], (c :: rest).drop mark.length) := by
  simp [cut, cutAux, h]

/-- A character at which no occurrence starts goes to the part before. -/
theorem cut_cons_of_later {mark rest : Text} {c : Char}
    (h : mark.isPrefixOf (c :: rest) = false) :
    cut mark (c :: rest) = (cut mark rest).map fun p => (c :: p.1, p.2) := by
  rw [cut, cutAux, if_neg (by simp [h]), cutAux_eq]
  simp

/-- The two parts with the mark between them are the whole text. -/
theorem eq_of_cut {mark t before after : Text} (h : cut mark t = some (before, after)) :
    t = before ++ mark ++ after := by
  induction t generalizing before after with
  | nil =>
    simp only [cut, cutAux] at h
    split at h
    · simp_all
    · simp at h
  | cons c rest ih =>
    by_cases hp : mark.isPrefixOf (c :: rest) = true
    · rw [cut_cons_of_found hp] at h
      obtain ⟨tail, htail⟩ := List.isPrefixOf_iff_prefix.1 hp
      rw [← htail] at h
      simp only [List.drop_left, Option.some.injEq, Prod.mk.injEq] at h
      rw [← h.1, ← h.2, ← htail]
      simp
    · rw [cut_cons_of_later (Bool.eq_false_iff.2 hp)] at h
      obtain ⟨⟨b, a⟩, hb, hab⟩ := Option.map_eq_some_iff.1 h
      simp only [Prod.mk.injEq] at hab
      rw [← hab.1, ih hb, ← hab.2]
      simp

/-- Whether a mark occurs in a text. -/
def holds (mark : Text) (t : Text) : Bool :=
  (cut mark t).isSome

/-- The rest of a text behind a mark at its front. -/
def after? (mark : Text) (t : Text) : Option Text :=
  if mark.isPrefixOf t then some (t.drop mark.length) else none

/-- A text has a given rest behind a mark exactly when it is the mark and that rest. -/
theorem after?_eq_some_iff {mark t rest : Text} :
    after? mark t = some rest ↔ t = mark ++ rest := by
  unfold after?
  constructor
  · intro h
    split at h
    · rename_i hp
      obtain ⟨tail, rfl⟩ := List.isPrefixOf_iff_prefix.1 hp
      simp_all
    · simp at h
  · rintro rfl
    simp

/-! ## Measures and numerals -/

/-- The number of bytes a text takes in UTF-8. -/
def utf8Size (t : Text) : Nat :=
  t.foldl (fun n c => n + c.utf8Size) 0

/-- The decimal numeral of a natural number. -/
def ofNat (n : Nat) : Text :=
  Nat.toDigits 10 n

/-- The decimal numeral of an integer, with a sign in front of a negative one. -/
def ofInt : Int → Text
  | .ofNat n => ofNat n
  | .negSucc n => '-' :: ofNat (n + 1)

/-- The value of decimal digits. -/
def digitsValue (digits : Text) : Nat :=
  digits.foldl (fun n d => 10 * n + (d.toNat - '0'.toNat)) 0

end Text

end MessageTemplate

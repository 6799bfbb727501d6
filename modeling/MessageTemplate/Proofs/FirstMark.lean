/-
# The first of several marks

The part of a text before the first place where one of some marks stands is told
by `Text.IsBeforeFirst`, which leaves only one such part
(`Text.IsBeforeFirst.eq`).

It can be found by cutting the text at one mark after another, each time in what
the marks before have left.  A mark could be lost there if another one were cut
off in the middle of it.  This does not happen if all marks start with one
character that they have nowhere else (`Text.IsBeforeFirst.cut_again`), so that
cutting in turn finds the first mark of all (`Text.isBeforeFirst_cutInTurn`).
-/
import Mathlib
import MessageTemplate.Text.Basic

namespace MessageTemplate.Text

/-- A text is what stands before the first of some marks in another, or is all of
it where none stands. -/
structure IsBeforeFirst (marks : List Text) (t head : Text) : Prop where
  isPrefix : head <+: t
  le : ∀ mark ∈ marks, ∀ front, front ++ mark <+: t → head.length ≤ front.length
  ends : head = t ∨ ∃ mark ∈ marks, head ++ mark <+: t

namespace IsBeforeFirst

variable {marks : List Text} {t head head' : Text}

/-! ## Character by character -/

theorem nil : IsBeforeFirst marks [] [] :=
  ⟨List.prefix_refl [], fun _ _ _ _ => Nat.zero_le _, Or.inl rfl⟩

/-- Nothing stands before a mark at the front. -/
theorem found {mark : Text} (hmark : mark ∈ marks) (h : mark <+: t) : IsBeforeFirst marks t [] :=
  ⟨List.nil_prefix, fun _ _ _ _ => Nat.zero_le _, Or.inr ⟨mark, hmark, h⟩⟩

/-- A character at which no mark starts stands before the first one. -/
theorem later {c : Char} (h : IsBeforeFirst marks t head)
    (hfront : ∀ mark ∈ marks, ¬ mark <+: c :: t) : IsBeforeFirst marks (c :: t) (c :: head) where
  isPrefix := (List.prefix_cons_inj c).2 h.isPrefix
  le := by
    intro mark hmark front hocc
    cases front with
    | nil => exact absurd hocc (hfront mark hmark)
    | cons d front =>
      rw [List.cons_append, List.cons_prefix_cons] at hocc
      exact Nat.succ_le_succ (h.le mark hmark front hocc.2)
  ends := by
    rcases h.ends with rfl | ⟨mark, hmark, hocc⟩
    · exact Or.inl rfl
    · exact Or.inr ⟨mark, hmark, (List.prefix_cons_inj c).2 hocc⟩

/-! ## Uniqueness -/

theorem length_le (h : IsBeforeFirst marks t head) (h' : IsBeforeFirst marks t head') :
    head.length ≤ head'.length := by
  rcases h'.ends with rfl | ⟨mark, hmark, hocc⟩
  · exact h.isPrefix.length_le
  · exact h.le mark hmark head' hocc

/-- There is one text before the first mark. -/
theorem eq (h : IsBeforeFirst marks t head) (h' : IsBeforeFirst marks t head') : head = head' :=
  (List.prefix_of_prefix_length_le h.isPrefix h'.isPrefix (h.length_le h')).eq_of_length_le
    (h'.length_le h)

end IsBeforeFirst

/-! ## One mark after another -/

/-- A text before the first occurrence of a mark, or all of it. -/
def cutAt (t mark : Text) : Text :=
  ((cut mark t).map Prod.fst).getD t

/-- A text cut at one mark after another. -/
def cutInTurn (marks : List Text) (t : Text) : Text :=
  marks.foldl cutAt t

theorem isBeforeFirst_cutAt (mark t : Text) : IsBeforeFirst [mark] t (cutAt t mark) := by
  induction t with
  | nil =>
    rw [cutAt, cut, cutAux]
    split <;> exact .nil
  | cons c rest ih =>
    by_cases hfront : mark.isPrefixOf (c :: rest) = true
    · rw [cutAt, cut_cons_of_found hfront]
      exact .found List.mem_cons_self (List.isPrefixOf_iff_prefix.1 hfront)
    · have hcut : cutAt (c :: rest) mark = c :: cutAt rest mark := by
        rw [cutAt, cut_cons_of_later (Bool.eq_false_iff.2 hfront), cutAt]
        cases cut mark rest <;> rfl
      rw [hcut]
      refine ih.later fun other hother => ?_
      rw [List.mem_singleton.1 hother, ← List.isPrefixOf_iff_prefix]
      exact hfront

/-- A mark starts with a character that it has nowhere else. -/
def StartsOnlyWith (c : Char) (mark : Text) : Prop :=
  ∃ name, mark = c :: name ∧ c ∉ name

/-- No mark starts inside another. -/
theorem StartsOnlyWith.length_le {c : Char} {mark other front head t : Text}
    (hmark : StartsOnlyWith c mark) (hother : StartsOnlyWith c other)
    (hocc : front ++ mark <+: t) (hhead : head ++ other <+: t)
    (hlt : front.length < head.length) : (front ++ mark).length ≤ head.length := by
  obtain ⟨name, rfl, hname⟩ := hmark
  obtain ⟨otherName, rfl, -⟩ := hother
  by_contra hinside
  -- the first character of the other mark would be in the name of this one
  have hfront : front <+: head :=
    List.prefix_of_prefix_length_le ((List.prefix_append _ _).trans hocc)
      ((List.prefix_append _ _).trans hhead) hlt.le
  have hnext : head ++ [c] <+: front ++ c :: name := by
    rw [← List.singleton_append, ← List.append_assoc] at hhead
    refine List.prefix_of_prefix_length_le ((List.prefix_append _ _).trans hhead) hocc ?_
    rw [List.length_append, List.length_singleton]
    omega
  obtain ⟨more, rfl⟩ := hfront
  rw [List.append_assoc, List.prefix_append_right_inj] at hnext
  cases more with
  | nil => simp at hlt
  | cons d more =>
    rw [List.cons_append, List.cons_prefix_cons] at hnext
    exact hname (hnext.2.subset (List.mem_append_right _ (List.mem_singleton_self c)))

/-- **Step.**  What stands before the first of further marks, in the part before
the first of some marks, stands before the first of all of them. -/
theorem IsBeforeFirst.cut_again {c : Char} {marks marks' : List Text} {t head head' : Text}
    (hmarks : ∀ mark ∈ marks ++ marks', StartsOnlyWith c mark) (h : IsBeforeFirst marks t head)
    (h' : IsBeforeFirst marks' head head') : IsBeforeFirst (marks ++ marks') t head' where
  isPrefix := h'.isPrefix.trans h.isPrefix
  le := by
    intro mark hmark front hocc
    rcases List.mem_append.1 hmark with hold | hnew
    · exact h'.isPrefix.length_le.trans (h.le mark hold front hocc)
    · rcases Nat.lt_or_ge front.length head.length with hlt | hge
      · refine h'.le mark hnew front (List.prefix_of_prefix_length_le hocc h.isPrefix ?_)
        rcases h.ends with rfl | ⟨other, hother, hhead⟩
        · exact hocc.length_le
        · exact (hmarks mark hmark).length_le (hmarks other (List.mem_append_left _ hother)) hocc
            hhead hlt
      · exact h'.isPrefix.length_le.trans hge
  ends := by
    rcases h'.ends with rfl | ⟨mark, hmark, hocc⟩
    · exact h.ends.imp_right fun ⟨mark, hmark, hocc⟩ =>
        ⟨mark, List.mem_append_left _ hmark, hocc⟩
    · exact Or.inr ⟨mark, List.mem_append_right _ hmark, hocc.trans h.isPrefix⟩

/-- **Run.**  Cutting at one mark after another finds the first of them all. -/
theorem isBeforeFirst_cutInTurn {c : Char} {marks : List Text}
    (hmarks : ∀ mark ∈ marks, StartsOnlyWith c mark) (t : Text) :
    IsBeforeFirst marks t (cutInTurn marks t) := by
  have held : ∀ (marks done : List Text) (head : Text),
      (∀ mark ∈ done ++ marks, StartsOnlyWith c mark) → IsBeforeFirst done t head →
      IsBeforeFirst (done ++ marks) t (marks.foldl cutAt head) := by
    intro marks
    induction marks with
    | nil =>
      intro done head _ h
      rwa [List.append_nil]
    | cons mark marks ih =>
      intro done head hall h
      rw [List.append_cons] at hall ⊢
      refine ih (done ++ [mark]) (cutAt head mark) hall ?_
      exact h.cut_again (fun m hm => hall m (List.mem_append_left _ hm))
        (isBeforeFirst_cutAt mark head)
  refine held marks [] t hmarks ⟨List.prefix_refl t, ?_, Or.inl rfl⟩
  intro mark hmark
  cases hmark

end MessageTemplate.Text

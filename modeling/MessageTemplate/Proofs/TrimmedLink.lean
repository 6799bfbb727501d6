/-
# What is left of a link

What was read as a link is cut before the first entity that ends it, and what is
left of that is the longest part of its front that may end where it does
(`isLongestPrefix_dropClosing`).

This can be done step by step: the text is cut at one ending entity after another,
and then in rounds, of which each drops the last character, or the entity of an
ampersand, or is the last (`trimRound`).  Such an entity is never dropped as a
whole, because its last character goes first (`trimRound_concat`).  There are at
most as many rounds as characters, and one more (`trimRounds_reverse`).
-/
import Mathlib
import MessageTemplate.Proofs.Link

namespace MessageTemplate.Html

/-! ## Ends of links -/

/-- A link may end where it does: if there is a last character, it is no closing
punctuation, and no closing bracket in a link with more closing than opening
brackets. -/
def MayEnd (link : Text) : Prop :=
  ∀ last, link.getLast? = some last →
    isClosing last = false ∧ ¬ (last = ')' ∧ link.count '(' < link.count ')')

theorem mayEnd_nil : MayEnd [] := by
  intro last hlast
  cases hlast

/-- Whether the last character has to go can be told from the brackets of the whole
link. -/
theorem mustDropLast_reverse (before : Text) (last : Char) :
    mustDropLast last before.reverse
      = (isClosing last || (last == ')' &&
          (before ++ [last]).count '(' < (before ++ [last]).count ')')) := by
  rw [mustDropLast, List.count_reverse, List.count_reverse]
  by_cases hbracket : last = ')'
  · rw [hbracket, List.count_append, List.count_append]
    rfl
  · rw [beq_eq_false_iff_ne.2 hbracket, Bool.false_and, Bool.false_and]

/-- A link may end with its last character if that need not be dropped. -/
theorem mayEnd_concat_iff {before : Text} {last : Char} :
    MayEnd (before ++ [last]) ↔ mustDropLast last before.reverse = false := by
  rw [mustDropLast_reverse, MayEnd, List.getLast?_concat]
  simp only [Option.some.injEq, forall_eq', Bool.or_eq_false_iff, Bool.and_eq_false_iff,
    beq_eq_false_iff_ne, decide_eq_false_iff_not, ne_eq, not_and_or]

/-! ## The longest front -/

/-- The longest part of the front of a text that has a property. -/
structure IsLongestPrefix (p : Text → Prop) (t front : Text) : Prop where
  isPrefix : front <+: t
  holds : p front
  longest : ∀ other, other <+: t → p other → other.length ≤ front.length

namespace IsLongestPrefix

variable {p : Text → Prop} {t front : Text}

/-- A text that has the property itself is the longest. -/
theorem of_holds (h : p t) : IsLongestPrefix p t t :=
  ⟨List.prefix_refl t, h, fun _ hother _ => hother.length_le⟩

/-- A further character makes no difference where the whole lacks the property. -/
theorem concat {last : Char} (h : IsLongestPrefix p t front) (hp : ¬ p (t ++ [last])) :
    IsLongestPrefix p (t ++ [last]) front where
  isPrefix := h.isPrefix.trans (List.prefix_append t [last])
  holds := h.holds
  longest := by
    intro other hother hholds
    rcases List.prefix_concat_iff.1 hother with rfl | hother
    · exact absurd hholds hp
    · exact h.longest other hother hholds

end IsLongestPrefix

/-- Dropping what has to go from the end, which comes first here, leaves the longest
front that may end. -/
theorem isLongestPrefix_dropClosing (t : Text) :
    IsLongestPrefix MayEnd t.reverse (dropClosing t).reverse := by
  induction t with
  | nil => exact .of_holds mayEnd_nil
  | cons last before ih =>
    have hend : MayEnd (before.reverse ++ [last]) ↔ mustDropLast last before = false := by
      rw [mayEnd_concat_iff, List.reverse_reverse]
    rw [dropClosing, List.reverse_cons]
    split
    · rename_i hdrop
      refine ih.concat fun hholds => ?_
      rw [hend.1 hholds] at hdrop
      cases hdrop
    · rename_i hkeep
      rw [List.reverse_cons]
      exact .of_holds (hend.2 (Bool.eq_false_iff.2 hkeep))

/-! ## Rounds -/

/-- The entity of an ampersand. -/
def ampersandEntity : Text :=
  entity '&'

/-- One round of trimming: a link without its last character, or without the entity
of an ampersand at its end, or nothing if the link may stay as it is. -/
def trimRound (link : Text) : Option Text :=
  match link.getLast? with
  | none => none
  | some last =>
    if isClosing last || (last == ')' && link.count '(' < link.count ')') then some link.dropLast
    else if ampersandEntity.isSuffixOf link then
      some (link.take (link.length - ampersandEntity.length))
    else none

/-- Trimming in at most a number of rounds, or nothing if these are too few. -/
def trimRounds : Nat → Text → Option Text
  | 0, _ => none
  | n + 1, link =>
    match trimRound link with
    | none => some link
    | some shorter => trimRounds n shorter

/-- The entity of an ampersand ends with closing punctuation. -/
theorem isClosing_of_isSuffixOf {before : Text} {last : Char}
    (h : ampersandEntity.isSuffixOf (before ++ [last]) = true) : isClosing last = true := by
  obtain ⟨front, hfront⟩ := List.isSuffixOf_iff_suffix.1 h
  have hlast := congrArg List.getLast? hfront
  rw [List.getLast?_append, List.getLast?_concat] at hlast
  rw [← Option.some.inj hlast]
  rfl

/-- A round drops the last character if that has to go, and nothing else. -/
theorem trimRound_concat (before : Text) (last : Char) :
    trimRound (before ++ [last])
      = if mustDropLast last before.reverse then some before else none := by
  rw [trimRound, List.getLast?_concat, mustDropLast_reverse]
  dsimp only
  split
  · rw [List.dropLast_concat]
  · rename_i hkeep
    refine if_neg fun hentity => hkeep ?_
    rw [isClosing_of_isSuffixOf hentity, Bool.true_or]

/-- **Rounds.**  One round more than there are characters is enough. -/
theorem trimRounds_reverse {t : Text} {n : Nat} (h : t.length < n) :
    trimRounds n t.reverse = some (dropClosing t).reverse := by
  induction t generalizing n with
  | nil =>
    obtain ⟨n, rfl⟩ := Nat.exists_eq_succ_of_ne_zero (Nat.ne_zero_of_lt h)
    rfl
  | cons last before ih =>
    obtain ⟨n, rfl⟩ := Nat.exists_eq_succ_of_ne_zero (Nat.ne_zero_of_lt h)
    have hround := trimRound_concat before.reverse last
    rw [List.reverse_reverse] at hround
    rw [trimRounds, List.reverse_cons, hround, dropClosing]
    by_cases hdrop : mustDropLast last before = true
    · rw [if_pos hdrop, if_pos hdrop]
      exact ih (Nat.lt_of_succ_lt_succ h)
    · rw [if_neg hdrop, if_neg hdrop, List.reverse_cons]

/-! ## The link -/

/-- An entity that ends links has its ampersand at the start alone. -/
theorem startsOnlyWith_endingEntities :
    ∀ e ∈ endingEntities, Text.StartsOnlyWith '&' e := by
  have htable : ∀ e ∈ endingEntities, e = '&' :: e.tail ∧ '&' ∉ e.tail := by decide
  intro e he
  exact ⟨e.tail, htable e he⟩

/-- **Links.**  What was read as a link is cut before the first of the entities that
end it, and the link is the longest front of that which may end.  Cutting at one
entity after another gives the same, and rounds of trimming come to an end with the
link. -/
theorem trimLink_keeps_longest (raw : Text) :
    Text.IsBeforeFirst endingEntities raw (beforeEntity raw)
      ∧ IsLongestPrefix MayEnd (beforeEntity raw) (trimLink raw)
      ∧ Text.cutInTurn endingEntities raw = beforeEntity raw
      ∧ trimRounds (raw.length + 1) (Text.cutInTurn endingEntities raw) = some (trimLink raw) := by
  have hfirst := isBeforeFirst_beforeEntity raw
  have hinTurn : Text.cutInTurn endingEntities raw = beforeEntity raw :=
    (Text.isBeforeFirst_cutInTurn startsOnlyWith_endingEntities raw).eq hfirst
  have hlongest := isLongestPrefix_dropClosing (beforeEntity raw).reverse
  rw [List.reverse_reverse] at hlongest
  refine ⟨hfirst, hlongest, hinTurn, ?_⟩
  have hlength : (beforeEntity raw).reverse.length < raw.length + 1 := by
    rw [List.length_reverse]
    exact Nat.lt_succ_of_le hfirst.isPrefix.length_le
  have hrounds := trimRounds_reverse hlength
  rw [List.reverse_reverse] at hrounds
  rw [hinTurn]
  exact hrounds

/-- Brackets and punctuation go in whatever order they stand. -/
example : trimLink "http://a.b/(c).)&quot;).".toList = "http://a.b/(c)".toList := by decide

end MessageTemplate.Html

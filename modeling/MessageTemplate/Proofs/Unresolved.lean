/-
# Placeholders that are shown as missing

The count of placeholders without a value and the text that shows them are two
walks over one template.  A relation between the texts of two settings that
also tells how many missing names it has met holds of whole templates with the
number of all of them (`Substitution.render_counted`).  Two such relations say
that the count is what a reader sees:

* in markup each missing name stands in a span of its own, and nothing else
  opens such a span (`hasSpans_render`);
* leaving out the missing names makes the text shorter by a character or more
  for each of them (`length_render_redacted_le`).
-/
import Mathlib
import MessageTemplate.Proofs.Markup
import MessageTemplate.Proofs.Substitution

namespace MessageTemplate

/-! ## Spans -/

/-- The number of places in a text at which a mark stands. -/
def Text.occurrences (mark t : Text) : Nat :=
  t.tails.countP mark.isPrefixOf

/-- What stands between the angle brackets of the tag in front of a missing name. -/
def spanTag : Text :=
  "span class='placeholder'".toList

/-- The tag in front of a missing name. -/
def spanOpening : Text :=
  '<' :: (spanTag ++ ['>'])

/-- A text opens a number of spans, and no further one whatever stands behind it. -/
def HasSpans (k : Nat) (t : Text) : Prop :=
  ∀ u, Text.occurrences spanOpening (t ++ u) = k + Text.occurrences spanOpening u

/-- One more character opens a span if the tag stands there. -/
theorem occurrences_cons (c : Char) (t : Text) :
    Text.occurrences spanOpening (c :: t)
      = Text.occurrences spanOpening t + if spanOpening.isPrefixOf (c :: t) then 1 else 0 := by
  rw [Text.occurrences, List.tails_cons, List.countP_cons]
  rfl

theorem hasSpans_nil : HasSpans 0 [] := by
  intro u
  simp

theorem HasSpans.append {j k : Nat} {t u : Text} (ht : HasSpans j t) (hu : HasSpans k u) :
    HasSpans (j + k) (t ++ u) := by
  intro rest
  have hfront := ht (u ++ rest)
  have hback := hu rest
  rw [List.append_assoc]
  omega

/-- The number of spans that a text opens is that of the tags in it. -/
theorem HasSpans.occurrences_eq {k : Nat} {t : Text} (h : HasSpans k t) :
    Text.occurrences spanOpening t = k := by
  have hempty : Text.occurrences spanOpening [] = 0 := by rfl
  have hwhole := h []
  rw [List.append_nil] at hwhole
  omega

/-- A text without an opening angle bracket opens no span. -/
theorem hasSpans_of_not_mem {t : Text} (h : '<' ∉ t) : HasSpans 0 t := by
  induction t with
  | nil => exact hasSpans_nil
  | cons c t ih =>
    rw [List.mem_cons, not_or] at h
    intro u
    have hnot : spanOpening.isPrefixOf (c :: (t ++ u)) = false := by
      rw [spanOpening, List.isPrefixOf, beq_false_of_ne h.1, Bool.false_and]
    rw [List.cons_append, occurrences_cons, hnot, ih h.2]
    rfl

/-- The tag in front of a missing name opens one span. -/
theorem hasSpans_opening : HasSpans 1 spanOpening := by
  intro u
  have hfound : spanOpening.isPrefixOf ('<' :: (spanTag ++ ['>'] ++ u)) = true :=
    List.isPrefixOf_iff_prefix.2 (List.prefix_append spanOpening u)
  have hrest := hasSpans_of_not_mem (t := spanTag ++ ['>']) (by decide) u
  show Text.occurrences spanOpening ('<' :: (spanTag ++ ['>'] ++ u)) = _
  rw [occurrences_cons, hfound, if_pos rfl, hrest]
  omega

/-- The tag behind a missing name opens none. -/
theorem hasSpans_closing : HasSpans 0 "</span>".toList := by
  intro u
  have hnot : spanOpening.isPrefixOf ('<' :: ("/span>".toList ++ u)) = false := rfl
  have hrest := hasSpans_of_not_mem (t := "/span>".toList) (by decide) u
  show Text.occurrences spanOpening ('<' :: ("/span>".toList ++ u)) = _
  rw [occurrences_cons, hnot, hrest]
  rfl

section Spans

variable {s : Substitution} (hs : s.html = .escape) (hstyle : s.style = .highlighted)
include hs

/-- An escaped text opens no span. -/
theorem hasSpans_sanitise (t : Text) : HasSpans 0 (s.sanitise t) := by
  apply hasSpans_of_not_mem
  intro hmem
  rw [Substitution.sanitise, hs] at hmem
  have hangle := isPlain_escape t '<' hmem
  cases hangle

include hstyle

/-- The mark of a missing name opens one span, unless the name is left out. -/
theorem hasSpans_missing (name : Text) :
    HasSpans (if s.redactMissing then 0 else 1) (s.missing name) := by
  unfold Substitution.missing
  rw [hstyle]
  split
  · exact hasSpans_nil
  · have hfront : HasSpans 0 "((".toList := hasSpans_of_not_mem (by decide)
    have hback : HasSpans 0 "))".toList := hasSpans_of_not_mem (by decide)
    -- the mark is the tag, the name in brackets, and the closing tag
    have hmark := (((hasSpans_opening.append hfront).append (hasSpans_sanitise hs name)).append
      hback).append hasSpans_closing
    have happend : "))</span>".toList = "))".toList ++ "</span>".toList := rfl
    show HasSpans 1 (spanOpening ++ "((".toList ++ s.sanitise name ++ "))</span>".toList)
    rw [happend, ← List.append_assoc]
    exact hmark

/-- **Spans.**  Where text is escaped and missing names are highlighted, a
template opens as many spans as it counts missing names. -/
theorem hasSpans_render (values : Personalisation) (content : Text) :
    HasSpans (s.unresolvedCount values content) (s.render values content) := by
  rw [Substitution.unresolvedCount_eq]
  have hR : Additive fun k t _ => HasSpans (if s.redactMissing then 0 else k) t := by
    constructor
    · rw [ite_self]
      exact hasSpans_nil
    · intro j k t _ t' _ ht ht'
      have happend := ht.append ht'
      cases hredact : s.redactMissing with
      | true => simpa [hredact] using happend
      | false => simpa [hredact] using happend
  have hsafe : ∀ t, HasSpans (if s.redactMissing then 0 else 0) (s.sanitise t) := by
    intro t
    rw [ite_self]
    exact hasSpans_sanitise hs t
  have hmissing : ∀ name ∈ missingNames values content,
      HasSpans (if s.redactMissing then 0 else 1) (s.missing name) :=
    fun name _ => hasSpans_missing hs hstyle name
  exact Substitution.render_counted hR (rfl : s.markdownLists = s.markdownLists) hsafe hmissing

end Spans

/-! ## Names that are left out -/

namespace Substitution

variable {s : Substitution} {values : Personalisation} {content : Text}

/-- The mark of a missing name is not empty, in any style. -/
theorem missing_ne_nil (h : s.redactMissing = false) (name : Text) : s.missing name ≠ [] := by
  unfold missing
  rw [h]
  cases s.style with
  | highlighted => exact List.cons_ne_nil _ _
  | noBrackets => exact List.cons_ne_nil _ _
  | plain => exact List.cons_ne_nil _ _

/-- Leaving out the missing names takes a character or more for each of them. -/
theorem length_render_redacted_le (h : s.redactMissing = false) (values : Personalisation)
    (content : Text) :
    ({ s with redactMissing := true }.render values content).length
      + (missingNames values content).length ≤ (s.render values content).length := by
  have hR : Additive fun k t u => t.length + k ≤ u.length := by
    constructor
    · exact Nat.le_refl 0
    · intro j k t u t' u' ht ht'
      rw [List.length_append, List.length_append]
      omega
  refine render_counted (s := { s with redactMissing := true }) hR rfl ?_ ?_
  · intro t
    exact Nat.le_refl _
  · intro name _
    rw [missing_of_redactMissing rfl, List.length_nil, Nat.zero_add]
    exact List.length_pos_of_ne_nil (missing_ne_nil h name)

/-- Nothing counts as missing exactly when leaving out the missing names
changes nothing. -/
theorem unresolvedCount_eq_zero_iff_render (h : s.redactMissing = false) :
    s.unresolvedCount values content = 0
      ↔ s.render values content = { s with redactMissing := true }.render values content := by
  constructor
  · intro hzero
    exact (render_redacted hzero).symm
  · intro hsame
    have hlength := length_render_redacted_le h values content
    rw [unresolvedCount_eq, h, if_neg Bool.false_ne_true]
    rw [hsame] at hlength
    omega

/-- **The count is what the reader sees.**  In markup with highlighted names, a
template opens as many spans as it counts placeholders without a value, whether
these are left out or not.  Where they are not left out, none is counted
exactly if leaving them out would change nothing, in every mode and style. -/
theorem unresolvedCount_is_shown (values : Personalisation) (content : Text)
    (markdownLists : Bool) :
    (∀ redactMissing : Bool,
      let s : Substitution :=
        { html := .escape, style := .highlighted, markdownLists, redactMissing }
      s.unresolvedCount values content
        = Text.occurrences "<span class='placeholder'>".toList (s.render values content))
    ∧ ∀ (html : HtmlMode) (style : MissingStyle),
      let s : Substitution := { html, style, markdownLists, redactMissing := false }
      s.unresolvedCount values content = 0
        ↔ s.render values content = { s with redactMissing := true }.render values content := by
  constructor
  · intro redactMissing s
    exact (hasSpans_render (s := s) rfl rfl values content).occurrences_eq.symm
  · intro html style s
    exact unresolvedCount_eq_zero_iff_render rfl

end Substitution

end MessageTemplate

/-
# Slices that are copied or wrapped

Writing a text with its links as anchors takes it as slices: each is copied as
it stands, or wrapped in an anchor.  Nothing of the text is lost, repeated or
moved (`Html.flatMap_source_slices`), a tag is always copied
(`Html.slices_append_tag`), and a slice is wrapped only where the text between
two tags reads as a link (`Html.isWrapped_of_slices_eq`).
`Html.autolink_wraps_slices` puts this together.
-/
import Mathlib
import MessageTemplate.Proofs.Cursor
import MessageTemplate.Proofs.Pattern
import MessageTemplate.Proofs.Pieces

namespace MessageTemplate.Html

/-! ## Slices -/

/-- A slice of a text: one that is copied, or one that is wrapped in an anchor. -/
inductive Slice
  | copied (t : Text)
  | wrapped (t : Text)
  deriving DecidableEq, Repr

/-- A slice as it stands in the text. -/
def Slice.source : Slice → Text
  | .copied t => t
  | .wrapped t => t

/-- A slice as it is written in markup. -/
def Slice.html (style : LinkStyle) : Slice → Text
  | .copied t => t
  | .wrapped t => anchor style t

/-- The slice that a span is taken as. -/
def Span.slice : Span → Slice
  | .character c => .copied [c]
  | .link t => .wrapped t

/-- The slices of a piece: a tag is copied, a text is taken span by span. -/
def Piece.slices (bareDomains : Bool) : Piece → List Slice
  | .text t => (spans bareDomains t).map Span.slice
  | .tag t => [.copied t]

/-- The slices of a text, from left to right. -/
def slices (bareDomains : Bool) (t : Text) : List Slice :=
  (pieces t).flatMap (Piece.slices bareDomains)

theorem Span.source_slice (s : Span) : s.slice.source = s.source := by
  cases s <;> rfl

theorem Span.html_slice (style : LinkStyle) (s : Span) : s.slice.html style = s.html style := by
  cases s <;> rfl

/-- The slices of spans make up what the spans do. -/
theorem flatMap_source_map_slice (l : List Span) :
    (l.map Span.slice).flatMap Slice.source = l.flatMap Span.source := by
  rw [List.flatMap_map]
  exact List.flatMap_congr fun s _ => s.source_slice

/-- The slices of a piece make it up. -/
theorem Piece.flatMap_source_slices (bareDomains : Bool) (p : Piece) :
    (p.slices bareDomains).flatMap Slice.source = p.source := by
  cases p with
  | text t => exact (flatMap_source_map_slice _).trans (flatMap_source_spans bareDomains t)
  | tag t => exact List.append_nil t

/-- The slices of a piece are written as the piece is. -/
theorem Piece.flatMap_html_slices (style : LinkStyle) (bareDomains : Bool) (p : Piece) :
    (p.slices bareDomains).flatMap (Slice.html style) = p.autolink style bareDomains := by
  cases p with
  | text t =>
    show ((spans bareDomains t).map Span.slice).flatMap (Slice.html style)
      = (spans bareDomains t).flatMap (Span.html style)
    rw [List.flatMap_map]
    exact List.flatMap_congr fun s _ => s.html_slice style
  | tag t => exact List.append_nil t

/-- The slices of pieces make up what the pieces do. -/
theorem flatMap_source_flatMap_slices (bareDomains : Bool) (l : List Piece) :
    (l.flatMap (Piece.slices bareDomains)).flatMap Slice.source = l.flatMap Piece.source := by
  rw [List.flatMap_assoc]
  exact List.flatMap_congr fun p _ => p.flatMap_source_slices bareDomains

/-- **Nothing is lost.**  The slices of a text make it up. -/
theorem flatMap_source_slices (bareDomains : Bool) (t : Text) :
    (slices bareDomains t).flatMap Slice.source = t :=
  (flatMap_source_flatMap_slices bareDomains (pieces t)).trans (flatMap_source_pieces t)

/-- The text with its links as anchors is its slices, copied or wrapped. -/
theorem autolink_eq_flatMap_slices (style : LinkStyle) (bareDomains : Bool) (t : Text) :
    autolink style bareDomains t = (slices bareDomains t).flatMap (Slice.html style) := by
  rw [slices, List.flatMap_assoc]
  exact (List.flatMap_congr fun p _ => p.flatMap_html_slices style bareDomains).symm

/-- **Tags.**  A tag between two texts is a slice that is copied, between the
slices of the two. -/
theorem slices_append_tag (bareDomains : Bool) (before : Text) {w : Text} (hw : IsTag w)
    (after : Text) :
    slices bareDomains (before ++ (w ++ after))
      = slices bareDomains before ++ .copied w :: slices bareDomains after := by
  rw [slices, pieces_append_tag before hw, List.flatMap_append, List.flatMap_cons]
  rfl

/-! ## Slices that are wrapped -/

/-- A member of a list made of words is a member of one of the words, with what
stands before and behind it there. -/
theorem exists_of_flatMap_eq_append_cons {α β : Type} {f : α → List β} {l : List α}
    {u v : List β} {b : β} (h : l.flatMap f = u ++ b :: v) :
    ∃ l₁ a l₂ u' v', l = l₁ ++ a :: l₂ ∧ f a = u' ++ b :: v'
      ∧ u = l₁.flatMap f ++ u' ∧ v = v' ++ l₂.flatMap f := by
  induction l generalizing u with
  | nil => exact absurd (List.append_eq_nil_iff.1 h.symm).2 (List.cons_ne_nil b v)
  | cons a l ih =>
    rw [List.flatMap_cons] at h
    rcases List.append_eq_append_iff.1 h with ⟨u', rfl, hrest⟩ | ⟨v', hword, hrest⟩
    · obtain ⟨l₁, a', l₂, u'', v', rfl, hword, rfl, rfl⟩ := ih hrest
      exact ⟨a :: l₁, a', l₂, u'', v', rfl, hword, by rw [List.flatMap_cons, List.append_assoc],
        rfl⟩
    · cases v' with
      | nil =>
        rw [List.nil_append] at hrest
        rw [List.append_nil] at hword
        obtain ⟨l₁, a', l₂, u'', v', rfl, hword', hu, rfl⟩ := ih (u := []) hrest.symm
        refine ⟨a :: l₁, a', l₂, u'', v', rfl, hword', ?_, rfl⟩
        rw [List.flatMap_cons, List.append_assoc, ← hu, List.append_nil, hword]
      | cons b' v' =>
        obtain ⟨rfl, rfl⟩ := List.cons.inj hrest
        exact ⟨[], a, l, u, v', rfl, hword, rfl, rfl⟩

/-- A slice of a text that is wrapped where it stands.  It lies in a text between
tags, at the start of what reads as a link there, and is not empty; and it holds
no blank, angle bracket or double quote. -/
structure IsWrapped (bareDomains : Bool) (t before link after : Text) : Prop where
  place : ∃ (front behind : List Piece) (left right raw : Text),
    pieces t = front ++ .text (left ++ (link ++ right)) :: behind
      ∧ before = front.flatMap Piece.source ++ left
      ∧ after = right ++ behind.flatMap Piece.source
      ∧ rawLink? bareDomains left.getLast? (link ++ right) = some raw
      ∧ IsMatch bareDomains raw ∧ link <+: raw
  ne_nil : link ≠ []
  characters : ∀ c ∈ link, isBlank c = false ∧ c ≠ '<' ∧ c ≠ '>' ∧ c ≠ '"'

/-- **Wrapped slices.**  A slice is wrapped where the text between two tags reads
as a link. -/
theorem isWrapped_of_slices_eq {bareDomains : Bool} {t link : Text} {l r : List Slice}
    (h : slices bareDomains t = l ++ .wrapped link :: r) :
    IsWrapped bareDomains t (l.flatMap Slice.source) link (r.flatMap Slice.source) := by
  obtain ⟨front, p, behind, l', r', hpieces, hslices, rfl, rfl⟩ :=
    exists_of_flatMap_eq_append_cons h
  cases p with
  | tag w =>
    -- a tag is one slice, and that is copied
    rcases List.append_eq_cons_iff.1 hslices.symm with ⟨-, htag⟩ | ⟨l'', -, hnil⟩
    · cases htag
    · exact absurd (List.append_eq_nil_iff.1 hnil.symm).2 (List.cons_ne_nil _ _)
  | text u =>
    obtain ⟨left, right, hspans, rfl, hright⟩ := List.map_eq_append_iff.1 hslices
    obtain ⟨s, right, rfl, hs, rfl⟩ := List.map_eq_cons_iff.1 hright
    obtain rfl : s = .link link := by
      cases s with
      | character c => cases hs
      | link t =>
        cases hs
        rfl
    have hlink := isLinkAt_of_spans_eq hspans
    obtain ⟨raw, hraw, htrim⟩ := hlink.raw
    have hsource := eq_append_of_spans_eq hspans
    constructor
    · refine ⟨front, behind, left.flatMap Span.source, right.flatMap Span.source, raw, ?_, ?_, ?_,
        hraw, (isMatch_rawLink? hraw).2.2, ?_⟩
      · rw [hpieces, ← hsource]
      · rw [List.flatMap_append, flatMap_source_flatMap_slices, flatMap_source_map_slice]
      · rw [List.flatMap_append, flatMap_source_flatMap_slices, flatMap_source_map_slice]
      · rw [htrim]
        exact trimLink_isPrefix raw
    · exact hlink.isLink.ne_nil
    · intro c hc
      have hcharacter := hlink.isLink.characters c hc
      simpa [isLinkCharacter, and_assoc] using hcharacter

/-! ## The text with its links as anchors -/

/-- **Anchors wrap slices.**  Taken as slices, the text is lost nowhere: the
slices make it up, and what is written is each of them, copied or wrapped in an
anchor.  A slice is wrapped only between tags, where it starts what reads as a
link, and it is not empty and holds no blank, angle bracket or double quote.
Every tag is copied in its place.  And written by offsets, with one cursor for
tags and one for links, no part of the text is asked for that starts behind its
end or ends behind the text. -/
theorem autolink_wraps_slices (style : LinkStyle) (bareDomains : Bool) (t : Text) :
    (slices bareDomains t).flatMap Slice.source = t
      ∧ autolink style bareDomains t = (slices bareDomains t).flatMap (Slice.html style)
      ∧ (∀ l link r, slices bareDomains t = l ++ .wrapped link :: r →
        IsWrapped bareDomains t (l.flatMap Slice.source) link (r.flatMap Slice.source))
      ∧ (∀ before w after, IsTag w → t = before ++ (w ++ after) →
        slices bareDomains t = slices bareDomains before ++ .copied w :: slices bareDomains after)
      ∧ autolink? style bareDomains t = some (autolink style bareDomains t) := by
  refine ⟨flatMap_source_slices bareDomains t, autolink_eq_flatMap_slices style bareDomains t,
    fun _ _ _ => isWrapped_of_slices_eq, ?_, autolink?_eq style bareDomains t⟩
  rintro before w after hw rfl
  exact slices_append_tag bareDomains before hw after

end MessageTemplate.Html

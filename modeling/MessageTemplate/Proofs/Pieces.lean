/-
# Tags where they stand

Reading a text for tags finds every one of them: where a tag stands between two
texts, it is a piece between the pieces of the two (`Html.pieces_append_tag`).
In front of each tag and behind the last there is one text
(`Html.alternates_pieces`), and a text in which no tag stands is one piece
(`Html.pieces_of_isTagFree`).
-/
import Mathlib
import MessageTemplate.Proofs.Markup

namespace MessageTemplate

/-- A text in which no tag stands.  It may have angle brackets. -/
def IsTagFree (t : Text) : Prop :=
  ∀ w, IsTag w → ¬ w <:+: t

/-- A text without angle brackets has no tag. -/
theorem IsPlain.isTagFree {t : Text} (h : IsPlain t) : IsTagFree t := by
  rintro w ⟨inner, -, rfl⟩ hw
  exact absurd (h '<' (hw.subset List.mem_cons_self)) (by decide)

namespace Html

/-! ## Tags between texts -/

/-- At an opening bracket it makes no difference what is open. -/
theorem tagPass_runFrom_opening (s : TagState) (t : Text) :
    tagPass.runFrom s ('<' :: t) = tagPass.runFrom ⟨s.opened ++ s.outside, []⟩ ('<' :: t) := by
  rw [Transducer.runFrom_cons, Transducer.runFrom_cons, tagPass_step_opening,
    tagPass_step_opening]
  rfl

/-- **Tags.**  A tag between two texts is a piece between the pieces of the two. -/
theorem pieces_append_tag (before : Text) {w : Text} (hw : IsTag w) (after : Text) :
    pieces (before ++ (w ++ after)) = pieces before ++ .tag w :: pieces after := by
  have htag : ∀ s : TagState, tagPass.runFrom s (w ++ after)
      = tagPass.finish s ++ .tag w :: tagPass.runFrom ⟨[], []⟩ after := by
    intro s
    obtain ⟨inner, hinner, rfl⟩ := hw
    rw [List.cons_append, tagPass_runFrom_opening, ← List.cons_append,
      tagPass_runFrom_tag ⟨inner, hinner, rfl⟩]
    rfl
  have hbefore := tagPass.runFrom_append tagPass.start before []
  rw [List.append_nil, Transducer.runFrom_nil] at hbefore
  show tagPass.runFrom tagPass.start (before ++ (w ++ after))
    = tagPass.runFrom tagPass.start before ++ .tag w :: tagPass.runFrom ⟨[], []⟩ after
  rw [Transducer.runFrom_append, htag, hbefore, List.append_assoc]

/-! ## Texts between tags -/

/-- Texts with a tag behind each of them but the last. -/
inductive Alternates : List Piece → Prop
  | last (u : Text) : Alternates [.text u]
  | behind (u w : Text) {l : List Piece} : Alternates l → Alternates (.text u :: .tag w :: l)

/-- **Texts.**  In front of each tag of a text and behind the last there is one text. -/
theorem alternates_pieces (t : Text) : Alternates (pieces t) := by
  have held : ∀ (t : Text) (s : TagState), Alternates (tagPass.runFrom s t) := by
    intro t
    induction t with
    | nil => exact fun s => .last _
    | cons c t ih =>
      rintro ⟨outside, opened⟩
      rw [Transducer.runFrom_cons]
      by_cases hlt : c = '<'
      · rw [hlt, tagPass_step_opening]
        exact ih _
      rcases eq_or_ne opened [] with rfl | hopened
      · rw [tagPass_step_outside hlt]
        exact ih _
      by_cases hgt : c = '>'
      · rw [hgt, tagPass_step_closing outside hopened]
        exact .behind _ _ (ih _)
      · rw [tagPass_step_inside hlt hgt outside hopened]
        exact ih _
  exact held t tagPass.start

/-- A text in which no tag stands is one piece. -/
theorem pieces_of_isTagFree {t : Text} (h : IsTagFree t) : pieces t = [.text t] := by
  have hsource := flatMap_source_pieces t
  have halternates := alternates_pieces t
  generalize hpieces : pieces t = l at hsource halternates
  cases halternates with
  | last u =>
    rw [List.flatMap_singleton] at hsource
    exact congrArg (fun u => [Piece.text u]) hsource
  | @behind u w l _ =>
    have hw : IsTag w := by
      refine isTag_of_mem_pieces (t := t) ?_
      simp [hpieces]
    refine absurd ⟨u, l.flatMap Piece.source, ?_⟩ (h w hw)
    rw [← hsource, List.append_assoc]
    rfl

/-- A text without tags is written as its spans are. -/
theorem autolink_of_isTagFree (style : LinkStyle) (bareDomains : Bool) {t : Text}
    (h : IsTagFree t) :
    autolink style bareDomains t = (spans bareDomains t).flatMap (Span.html style) := by
  rw [autolink, pieces_of_isTagFree h]
  exact List.append_nil _

end Html

end MessageTemplate

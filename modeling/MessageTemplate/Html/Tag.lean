/-
# Tags

A tag is an opening angle bracket, characters other than angle brackets, and a
closing angle bracket.  `Html.pieces` splits a text at its tags, and
`Html.strip` drops them.
-/
import MessageTemplate.Html.Entity
import MessageTemplate.Text.Transducer

namespace MessageTemplate.Html

/-- A piece of a text: a tag, or the text between two tags. -/
inductive Piece
  | text (t : Text)
  | tag (t : Text)
  deriving DecidableEq, Repr

/-- A piece as it was written. -/
def Piece.source : Piece → Text
  | .text t => t
  | .tag t => t

/-- What is read and not yet written when a text is split at its tags. -/
structure TagState where
  /-- The text since the last tag, latest character first. -/
  outside : Text
  /-- An opening bracket and what follows it, latest character first, or nothing. -/
  opened : Text
  deriving DecidableEq, Repr

/-- The pass that splits a text at its tags. -/
def tagPass : Transducer TagState Char Piece where
  start := ⟨[], []⟩
  step := fun s c =>
    if c = '<' then (⟨s.opened ++ s.outside, ['<']⟩, [])
    else if s.opened.isEmpty then (⟨c :: s.outside, []⟩, [])
    else if c = '>' then (⟨[], []⟩, [.text s.outside.reverse, .tag ('>' :: s.opened).reverse])
    else (⟨s.outside, c :: s.opened⟩, [])
  finish := fun s => [.text (s.opened ++ s.outside).reverse]

/-- A text as its tags and the texts before, between and behind them. -/
def pieces (t : Text) : List Piece :=
  tagPass.run t

/-- The pieces of a text make it up. -/
theorem flatMap_source_pieces (t : Text) : (pieces t).flatMap Piece.source = t := by
  have held : ∀ (t : Text) (s : TagState),
      (tagPass.runFrom s t).flatMap Piece.source = (s.opened ++ s.outside).reverse ++ t := by
    intro t
    induction t with
    | nil => intro s; simp [tagPass, Piece.source]
    | cons c rest ih =>
      intro s
      rw [Transducer.runFrom_cons, List.flatMap_append, ih]
      simp only [tagPass]
      split
      · simp_all
      · split
        · simp_all
        · split <;> simp_all [Piece.source]
  simpa [pieces, Transducer.run, tagPass] using held t tagPass.start

/-- A text without its tags. -/
def withoutTags (t : Text) : Text :=
  (pieces t).flatMap fun
    | .text t => t
    | .tag _ => []

/-- A text without its tags, as the rest is written in markup. -/
def strip (t : Text) : Text :=
  escape (withoutTags t)

end MessageTemplate.Html

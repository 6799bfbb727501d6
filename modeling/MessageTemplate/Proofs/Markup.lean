/-
# Markup and its tags

A text is markup over a list of tags if it is made of these tags, in this
order, and of characters that are no angle brackets.  Reading a text for tags
decides this (`markup_iff`).  What is escaped has no tags at all, and the passes
over a text keep them: spacing (`Markup.normaliseLines`), typography
(`Markup.niceTypography`) and downgrading (`Markup.downgrade`).  Breaking lines
and looking for links put in tags of their own, which are told by the texts
between the tags (`Markup.breakLines`, `Markup.autolink`).
-/
import Mathlib
import MessageTemplate.Proofs.Body
import MessageTemplate.Proofs.Link
import MessageTemplate.Proofs.Phrase

namespace MessageTemplate

/-! ## Plain text, tags and markup -/

/-- Whether a character opens or closes a tag. -/
def isAngle (c : Char) : Bool :=
  c == '<' || c == '>'

/-- A text without angle brackets. -/
def IsPlain (t : Text) : Prop :=
  ∀ c ∈ t, isAngle c = false

/-- Whether a text is plain can be read off it. -/
instance (t : Text) : Decidable (IsPlain t) :=
  decidable_of_iff (t.any isAngle = false) (by simp [IsPlain])

/-- One tag: plain text between angle brackets. -/
def IsTag (w : Text) : Prop :=
  ∃ inner, IsPlain inner ∧ w = '<' :: (inner ++ ['>'])

/-- A text made of the given tags, in order, and of characters other than angle
brackets. -/
inductive Markup : List Text → Text → Prop
  | nil : Markup [] []
  | char {c : Char} {ws : List Text} {t : Text} : isAngle c = false → Markup ws t →
    Markup ws (c :: t)
  | tag {w : Text} {ws : List Text} {t : Text} : IsTag w → Markup ws t →
    Markup (w :: ws) (w ++ t)

theorem isAngle_eq_false_iff {c : Char} : isAngle c = false ↔ c ≠ '<' ∧ c ≠ '>' := by
  simp [isAngle]

theorem IsPlain.append {t u : Text} (ht : IsPlain t) (hu : IsPlain u) : IsPlain (t ++ u) :=
  List.forall_mem_append.2 ⟨ht, hu⟩

theorem IsPlain.flatMap {α : Type} {f : α → Text} {l : List α} (h : ∀ a ∈ l, IsPlain (f a)) :
    IsPlain (l.flatMap f) := by
  intro d hd
  obtain ⟨a, ha, hd⟩ := List.mem_flatMap.1 hd
  exact h a ha d hd

/-- No character is written with angle brackets in markup. -/
theorem isPlain_entity (c : Char) : IsPlain (Html.entity c) := by
  unfold Html.entity
  split
  · decide
  split
  · decide
  split
  · decide
  · rename_i hlt hgt
    intro d hd
    rw [List.mem_singleton.1 hd]
    exact isAngle_eq_false_iff.2 ⟨hlt, hgt⟩

/-- What is escaped has no angle bracket. -/
theorem isPlain_escape (t : Text) : IsPlain (Html.escape t) :=
  .flatMap fun c _ => isPlain_entity c

namespace Markup

variable {ws vs : List Text} {t u : Text}

theorem append (ht : Markup ws t) (hu : Markup vs u) : Markup (ws ++ vs) (t ++ u) := by
  induction ht with
  | nil => exact hu
  | char hc _ ih => exact char hc ih
  | tag hw _ ih =>
    rw [List.append_assoc]
    exact tag hw ih

/-- A plain text is markup without tags. -/
theorem of_isPlain (h : IsPlain t) : Markup [] t := by
  induction t with
  | nil => exact nil
  | cons c t ih =>
    exact char (h c List.mem_cons_self) (ih fun d hd => h d (List.mem_cons_of_mem c hd))

theorem single {w : Text} (hw : IsTag w) : Markup [w] w := by
  simpa using tag hw nil

/-- Plain text in front of markup brings no tags. -/
theorem plain_append (ht : IsPlain t) (hu : Markup vs u) : Markup vs (t ++ u) :=
  (of_isPlain ht).append hu

theorem flatMap {α : Type} {f : α → Text} {tags : α → List Text} {l : List α}
    (h : ∀ a ∈ l, Markup (tags a) (f a)) : Markup (l.flatMap tags) (l.flatMap f) := by
  induction l with
  | nil => exact nil
  | cons a l ih =>
    rw [List.flatMap_cons, List.flatMap_cons]
    exact (h a List.mem_cons_self).append (ih fun b hb => h b (List.mem_cons_of_mem a hb))

/-- Markup keeps its tags if each character is written as plain text and each
tag as it is. -/
theorem flatMap_char {g : Char → Text} (h : Markup ws t)
    (hchar : ∀ c, isAngle c = false → IsPlain (g c)) (htags : ∀ w ∈ ws, w.flatMap g = w) :
    Markup ws (t.flatMap g) := by
  induction h with
  | nil => exact nil
  | char hc _ ih =>
    rw [List.flatMap_cons]
    exact plain_append (hchar _ hc) (ih htags)
  | tag hw _ ih =>
    obtain ⟨hself, hrest⟩ := List.forall_mem_cons.1 htags
    rw [List.flatMap_append, hself]
    exact tag hw (ih hrest)

end Markup

/-! ## Reading tags -/

namespace Html

/-- A piece of markup: plain text, or a tag. -/
def Piece.IsClear : Piece → Prop
  | .text t => IsPlain t
  | .tag _ => True

/-- Whether a piece is one of markup can be read off it. -/
instance (p : Piece) : Decidable p.IsClear :=
  match p with
  | .text t => inferInstanceAs (Decidable (IsPlain t))
  | .tag _ => inferInstanceAs (Decidable True)

/-- The tags of a piece when further tags are put into texts. -/
def Piece.tagsWith (inner : Text → List Text) : Piece → List Text
  | .text t => inner t
  | .tag w => [w]

/-- The tags of a text, in order, with further ones for the texts between them. -/
def tagsWith (inner : Text → List Text) (t : Text) : List Text :=
  (pieces t).flatMap (Piece.tagsWith inner)

/-- The tags of a text, in order. -/
def tags (t : Text) : List Text :=
  tagsWith (fun _ => []) t

theorem mem_tagsWith {inner : Text → List Text} {t w : Text} (h : w ∈ tagsWith inner t) :
    w ∈ tags t ∨ ∃ u, w ∈ inner u := by
  obtain ⟨p, hp, hw⟩ := List.mem_flatMap.1 h
  cases p with
  | text u => exact Or.inr ⟨u, hw⟩
  | tag w' => exact Or.inl (List.mem_flatMap.2 ⟨.tag w', hp, hw⟩)

/-- An opening bracket makes plain text of what was open. -/
theorem tagPass_step_opening (s : TagState) :
    tagPass.step s '<' = (⟨s.opened ++ s.outside, ['<']⟩, []) := rfl

/-- Outside a tag every other character is plain text. -/
theorem tagPass_step_outside {c : Char} (hlt : c ≠ '<') (outside : Text) :
    tagPass.step ⟨outside, []⟩ c = (⟨c :: outside, []⟩, []) := by
  simp [tagPass, hlt]

/-- Inside a tag every character but the brackets belongs to it. -/
theorem tagPass_step_inside {c : Char} (hlt : c ≠ '<') (hgt : c ≠ '>') (outside : Text)
    {opened : Text} (hopened : opened ≠ []) :
    tagPass.step ⟨outside, opened⟩ c = (⟨outside, c :: opened⟩, []) := by
  simp [tagPass, hlt, hgt, hopened]

/-- A closing bracket completes a tag. -/
theorem tagPass_step_closing (outside : Text) {opened : Text} (hopened : opened ≠ []) :
    tagPass.step ⟨outside, opened⟩ '>'
      = (⟨[], []⟩, [.text outside.reverse, .tag ('>' :: opened).reverse]) := by
  simp [tagPass, hopened]

/-- Plain text behind an opening bracket belongs to the tag that it opens. -/
theorem tagPass_runFrom_inner {inner : Text} (h : IsPlain inner) (outside opened t : Text) :
    tagPass.runFrom ⟨outside, opened ++ ['<']⟩ (inner ++ t)
      = tagPass.runFrom ⟨outside, inner.reverse ++ opened ++ ['<']⟩ t := by
  induction inner generalizing opened with
  | nil => rfl
  | cons c inner ih =>
    obtain ⟨hlt, hgt⟩ := isAngle_eq_false_iff.1 (h c List.mem_cons_self)
    rw [List.cons_append, Transducer.runFrom_cons,
      tagPass_step_inside hlt hgt outside (List.concat_ne_nil '<' opened), List.nil_append,
      ← List.cons_append, ih (fun d hd => h d (List.mem_cons_of_mem c hd))]
    simp

/-- Plain text behind the last tag is kept to be written with what is behind it. -/
theorem tagPass_runFrom_plain {t : Text} (h : IsPlain t) (outside u : Text) :
    tagPass.runFrom ⟨outside, []⟩ (t ++ u) = tagPass.runFrom ⟨t.reverse ++ outside, []⟩ u := by
  induction t generalizing outside with
  | nil => rfl
  | cons c t ih =>
    obtain ⟨hc, ht⟩ := List.forall_mem_cons.1 h
    have hlt : c ≠ '<' := (isAngle_eq_false_iff.1 hc).1
    rw [List.cons_append, Transducer.runFrom_cons, tagPass_step_outside hlt, List.nil_append, ih ht,
      List.reverse_cons, List.append_assoc, List.singleton_append]

/-- A tag is read as one, behind the text in front of it. -/
theorem tagPass_runFrom_tag {w : Text} (hw : IsTag w) (outside t : Text) :
    tagPass.runFrom ⟨outside, []⟩ (w ++ t)
      = .text outside.reverse :: .tag w :: tagPass.runFrom ⟨[], []⟩ t := by
  obtain ⟨inner, hinner, rfl⟩ := hw
  have hopen : tagPass.step ⟨outside, []⟩ '<' = (⟨outside, [] ++ ['<']⟩, []) := rfl
  rw [List.cons_append, Transducer.runFrom_cons, hopen, List.nil_append, List.append_assoc,
    tagPass_runFrom_inner hinner, List.append_nil, List.singleton_append, Transducer.runFrom_cons,
    tagPass_step_closing outside (List.concat_ne_nil '<' inner.reverse)]
  simp

/-- A tag is read only where one stands. -/
theorem isTag_of_mem_pieces {t w : Text} (h : .tag w ∈ pieces t) : IsTag w := by
  -- what is open is an opening bracket and plain text behind it
  have held : ∀ (t : Text) (s : TagState),
      (s.opened = [] ∨ ∃ opened, IsPlain opened ∧ s.opened = opened ++ ['<']) →
      .tag w ∈ tagPass.runFrom s t → IsTag w := by
    intro t
    induction t with
    | nil =>
      intro s _ hmem
      simp [tagPass] at hmem
    | cons c t ih =>
      intro s hs hmem
      rw [Transducer.runFrom_cons] at hmem
      obtain ⟨outside, held⟩ := s
      by_cases hlt : c = '<'
      · rw [hlt, tagPass_step_opening] at hmem
        exact ih _ (Or.inr ⟨[], by simp [IsPlain], rfl⟩) hmem
      obtain rfl | ⟨opened, hplain, rfl⟩ := hs
      · rw [tagPass_step_outside hlt] at hmem
        exact ih _ (Or.inl rfl) hmem
      have hne : opened ++ ['<'] ≠ [] := List.concat_ne_nil '<' opened
      by_cases hgt : c = '>'
      · rw [hgt, tagPass_step_closing outside hne, List.mem_append] at hmem
        rcases hmem with hmem | hmem
        · have hw : w = '<' :: (opened.reverse ++ ['>']) := by simpa using hmem
          exact ⟨opened.reverse, fun d hd => hplain d (List.mem_reverse.1 hd), hw⟩
        · exact ih _ (Or.inl rfl) hmem
      · rw [tagPass_step_inside hlt hgt outside hne] at hmem
        refine ih _ (Or.inr ⟨c :: opened, ?_, rfl⟩) hmem
        exact List.forall_mem_cons.2 ⟨isAngle_eq_false_iff.2 ⟨hlt, hgt⟩, hplain⟩
  exact held t tagPass.start (Or.inl rfl) h

end Html

namespace Markup

variable {ws : List Text} {t : Text}

/-- **Reading markup.**  It is read as plain texts and its tags. -/
theorem tags_eq_and_isClear (h : Markup ws t) :
    Html.tags t = ws ∧ ∀ p ∈ Html.pieces t, p.IsClear := by
  have held : ∀ outside, IsPlain outside →
      (Html.tagPass.runFrom ⟨outside, []⟩ t).flatMap (Html.Piece.tagsWith fun _ => []) = ws
      ∧ ∀ p ∈ Html.tagPass.runFrom ⟨outside, []⟩ t, p.IsClear := by
    induction h with
    | nil =>
      intro outside houtside
      rw [Transducer.runFrom_nil]
      exact ⟨rfl, List.forall_mem_singleton.2 fun d hd => houtside d (List.mem_reverse.1 hd)⟩
    | @char c ws t hc _ ih =>
      intro outside houtside
      rw [← List.singleton_append,
        Html.tagPass_runFrom_plain (List.forall_mem_singleton.2 hc) outside t]
      exact ih (c :: outside) (List.forall_mem_cons.2 ⟨hc, houtside⟩)
    | tag hw _ ih =>
      intro outside houtside
      obtain ⟨htags, hclear⟩ := ih [] fun d hd => absurd hd List.not_mem_nil
      rw [Html.tagPass_runFrom_tag hw, List.forall_mem_cons, List.forall_mem_cons,
        List.flatMap_cons, List.flatMap_cons, htags]
      exact ⟨rfl, fun d hd => houtside d (List.mem_reverse.1 hd), trivial, hclear⟩
  exact held [] fun d hd => absurd hd List.not_mem_nil

/-- The tags read in markup are its tags. -/
theorem tags_eq (h : Markup ws t) : Html.tags t = ws :=
  h.tags_eq_and_isClear.1

/-- A text is markup over one list of tags only. -/
theorem unique (h : Markup ws t) {vs : List Text} (h' : Markup vs t) : ws = vs :=
  h.tags_eq.symm.trans h'.tags_eq

/-- What is written for each piece of markup is markup, with the tags that are
put into plain texts and with the tags themselves. -/
theorem flatMap_pieces {f : Html.Piece → Text} {inner : Text → List Text} (h : Markup ws t)
    (htext : ∀ u, IsPlain u → Markup (inner u) (f (.text u))) (htag : ∀ w ∈ ws, f (.tag w) = w) :
    Markup (Html.tagsWith inner t) ((Html.pieces t).flatMap f) := by
  obtain ⟨htags, hclear⟩ := h.tags_eq_and_isClear
  refine flatMap fun p hp => ?_
  cases p with
  | text u => exact htext u (hclear _ hp)
  | tag w =>
    have hw : w ∈ ws := by
      rw [← htags]
      exact List.mem_flatMap.2 ⟨_, hp, List.mem_singleton_self w⟩
    rw [htag w hw]
    exact single (Html.isTag_of_mem_pieces hp)

end Markup

/-- **Recognising markup.**  A text is markup over the tags that are read in it
if the texts between them are plain. -/
theorem markup_iff {ws : List Text} {t : Text} :
    Markup ws t ↔ Html.tags t = ws ∧ ∀ p ∈ Html.pieces t, p.IsClear := by
  refine ⟨Markup.tags_eq_and_isClear, ?_⟩
  rintro ⟨rfl, hclear⟩
  conv => rhs; rw [← Html.flatMap_source_pieces t]
  refine .flatMap fun p hp => ?_
  cases p with
  | text u => exact .of_isPlain (hclear _ hp)
  | tag w => exact .single (Html.isTag_of_mem_pieces hp)

/-- A text whose angle brackets all belong to tags. -/
def IsMarkup (t : Text) : Prop :=
  Markup (Html.tags t) t

theorem Markup.isMarkup {ws : List Text} {t : Text} (h : Markup ws t) : IsMarkup t := by
  rw [IsMarkup, h.tags_eq]
  exact h

/-- Whether a text is markup over some tags can be read off it. -/
instance (ws : List Text) (t : Text) : Decidable (Markup ws t) :=
  decidable_of_iff _ markup_iff.symm

/-! ## Passes over a text -/

/-- A pass that leaves phrases alone and, of what it reads, writes no more than
the characters themselves and others that are no angle brackets. -/
structure KeepsMarkup {σ : Type} (m : Transducer σ Char Char) (held : σ → Text) (clear : σ) :
    Prop where
  phrases : PassesPhrases m held clear
  clear : held clear = []
  step : ∀ s c, ∀ d ∈ (m.step s c).2 ++ held (m.step s c).1,
    d ∈ held s ∨ d = c ∨ isAngle d = false
  finish : ∀ s, ∀ d ∈ m.finish s, d ∈ held s

namespace Markup

variable {ws : List Text} {t : Text}

/-- **Passes.**  Markup keeps its tags if they are phrases. -/
theorem runFrom {σ : Type} {m : Transducer σ Char Char} {held : σ → Text} {clear : σ}
    (hm : KeepsMarkup m held clear) (hphrase : ∀ w ∈ ws, Phrase w) (h : Markup ws t) {s : σ}
    (hs : IsPlain (held s)) : Markup ws (m.runFrom s t) := by
  induction h generalizing s with
  | nil =>
    rw [Transducer.runFrom_nil]
    exact of_isPlain fun d hd => hs d (hm.finish s d hd)
  | @char c ws t hc _ ih =>
    have hplain : IsPlain ((m.step s c).2 ++ held (m.step s c).1) := by
      intro d hd
      rcases hm.step s c d hd with hheld | rfl | hd
      · exact hs d hheld
      · exact hc
      · exact hd
    obtain ⟨hwritten, hheld⟩ := List.forall_mem_append.1 hplain
    rw [Transducer.runFrom_cons]
    exact plain_append hwritten (ih hphrase hheld)
  | @tag w ws t hw _ ih =>
    obtain ⟨htag, hrest⟩ := List.forall_mem_cons.1 hphrase
    have hclear : IsPlain (held clear) := by
      rw [hm.clear]
      exact fun d hd => absurd hd List.not_mem_nil
    rw [hm.phrases w htag, List.append_assoc]
    exact plain_append hs (tag hw (ih hrest hclear))

end Markup

/-! ## Spacing -/

/-- A gap is written without angle brackets. -/
theorem isPlain_gap (gap : Gap) : IsPlain gap.text := by
  intro d hd
  rcases Gap.mem_text hd with rfl | rfl <;> rfl

theorem newlinePass_keepsMarkup : KeepsMarkup newlinePass (fun _ => []) false where
  phrases := newlinePass_passesPhrases
  clear := rfl
  step := by
    intro s c d hd
    simp only [newlinePass] at hd
    split at hd
    · have hd' : d = '\n' := by simpa using hd
      exact Or.inr (Or.inr (by rw [hd']; rfl))
    · split at hd <;> simp_all
  finish := fun _ _ hd => hd

/-- A pass that writes gaps keeps markup. -/
theorem IsGapPass.keepsMarkup {m : Transducer Gap Char Char} (hm : IsGapPass m) :
    KeepsMarkup m Gap.text .none where
  phrases := hm.passesPhrases
  clear := rfl
  step := by
    intro gap c d hd
    rcases List.mem_append.1 hd with hwritten | hheld
    · rcases hm.step gap c with hnone | hsome
      · rw [hnone] at hwritten
        exact absurd hwritten List.not_mem_nil
      · rw [hsome, List.mem_append, List.mem_singleton] at hwritten
        exact hwritten.imp_right Or.inl
    · exact Or.inr (Or.inr (isPlain_gap _ d hheld))
  finish := by
    intro gap d hd
    rw [hm.finish] at hd
    exact absurd hd List.not_mem_nil

theorem dashPass_keepsMarkup : KeepsMarkup dashPass DashState.held .text where
  phrases := dashPass_passesPhrases
  clear := rfl
  step := by
    intro s c d hd
    rcases mem_dashPass_step hd with hheld | hself | rfl | rfl
    · exact Or.inl hheld
    · exact Or.inr (Or.inl hself)
    · exact Or.inr (Or.inr rfl)
    · exact Or.inr (Or.inr rfl)
  finish := fun s d hd => by rwa [dashPass_finish] at hd

namespace Markup

variable {ws : List Text} {t : Text}

theorem stripUnsupported (hphrase : ∀ w ∈ ws, Phrase w) (h : Markup ws t) :
    Markup ws (stripUnsupported t) := by
  induction h with
  | nil => exact nil
  | @char c ws t hc _ ih =>
    rw [← List.singleton_append, stripUnsupported_append]
    refine plain_append (fun d hd => ?_) (ih hphrase)
    rw [List.mem_singleton.1 (List.mem_of_mem_filter hd)]
    exact hc
  | @tag w ws t hw _ ih =>
    obtain ⟨htag, hrest⟩ := List.forall_mem_cons.1 hphrase
    rw [stripUnsupported_append, stripUnsupported_phrase htag]
    exact tag hw (ih hrest)

/-- **Spacing.**  Markup keeps its tags in the normal spacing of lines. -/
theorem normaliseLines (hphrase : ∀ w ∈ ws, Phrase w) (h : Markup ws t) :
    Markup ws (normaliseLines t) := by
  have hnewlines : Markup ws (normaliseNewlines t) :=
    h.runFrom newlinePass_keepsMarkup hphrase fun _ hd => absurd hd List.not_mem_nil
  exact (hnewlines.stripUnsupported hphrase).runFrom isGapPass_linePass.keepsMarkup hphrase
    (isPlain_gap _)

/-- Markup keeps its tags on one line. -/
theorem normaliseWhitespace (hphrase : ∀ w ∈ ws, Phrase w) (h : Markup ws t) :
    Markup ws (normaliseWhitespace t) :=
  h.runFrom isGapPass_wordPass.keepsMarkup hphrase (isPlain_gap _)

end Markup

/-! ## Typography -/

/-- A quote is curled into no angle bracket. -/
theorem isAngle_curlQuote (previous : Option Char) {c : Char} (hc : isAngle c = false) :
    isAngle (curlQuote previous c) = false := by
  unfold curlQuote
  split
  · split <;> rfl
  split
  · split <;> rfl
  · exact hc

/-- Where a tag is open the quote pass copies what it reads. -/
theorem quotePass_runFrom_inner (previous : Option Char) {inner : List (Char × Bool)}
    (h : IsPlain (inner.map Prod.fst)) (l : List (Char × Bool)) :
    (quotePass true).runFrom ⟨previous, true⟩ (inner ++ l)
      = inner.map Prod.fst ++ (quotePass true).runFrom ⟨previous, true⟩ l := by
  induction inner with
  | nil => rfl
  | cons a inner ih =>
    obtain ⟨c, inEmail⟩ := a
    obtain ⟨hc, hinner⟩ := List.forall_mem_cons.1 h
    have hgt : c ≠ '>' := (isAngle_eq_false_iff.1 hc).2
    have hstep : (quotePass true).step ⟨previous, true⟩ (c, inEmail) = (⟨previous, true⟩, [c]) := by
      simp [quotePass, hgt]
    rw [List.cons_append, Transducer.runFrom_cons, hstep, ih hinner]
    rfl

/-- The quote pass copies a tag. -/
theorem quotePass_runFrom_tag (previous : Option Char) {w : List (Char × Bool)}
    (hw : IsTag (w.map Prod.fst)) (l : List (Char × Bool)) :
    (quotePass true).runFrom ⟨previous, false⟩ (w ++ l)
      = w.map Prod.fst ++ (quotePass true).runFrom ⟨previous, false⟩ l := by
  obtain ⟨inner, hinner, hw⟩ := hw
  obtain ⟨⟨opening, inEmail⟩, rest, rfl, hopening, hrest⟩ := List.map_eq_cons_iff.1 hw
  obtain ⟨marked, closing, rfl, rfl, hclosing⟩ := List.map_eq_append_iff.1 hrest
  obtain ⟨⟨last, inEmail'⟩, rfl, hlast⟩ := List.map_eq_singleton_iff.1 hclosing
  have hopen : (quotePass true).step ⟨previous, false⟩ ('<', inEmail)
      = (⟨previous, true⟩, ['<']) := rfl
  have hclose : (quotePass true).step ⟨previous, true⟩ ('>', inEmail')
      = (⟨previous, false⟩, ['>']) := rfl
  rw [show opening = '<' from hopening, show last = '>' from hlast, List.cons_append,
    Transducer.runFrom_cons, hopen, List.append_assoc, quotePass_runFrom_inner previous hinner,
    List.singleton_append, List.singleton_append, Transducer.runFrom_cons, hclose]
  simp

namespace Markup

variable {ws : List Text} {t : Text}

/-- **Quotes.**  Markup keeps its tags when the quotes between them are curled. -/
theorem smartenQuotes (h : Markup ws t) : Markup ws (smartenQuotes true t) := by
  have held : ∀ (l : List (Char × Bool)) (previous : Option Char), l.map Prod.fst = t →
      Markup ws ((quotePass true).runFrom ⟨previous, false⟩ l) := by
    induction h with
    | nil =>
      intro l previous hl
      rw [List.map_eq_nil_iff.1 hl]
      exact nil
    | @char c ws t hc _ ih =>
      intro l previous hl
      obtain ⟨⟨d, inEmail⟩, rest, rfl, hd, hrest⟩ := List.map_eq_cons_iff.1 hl
      rw [show d = c from hd]
      have hlt : c ≠ '<' := (isAngle_eq_false_iff.1 hc).1
      have hstep : (quotePass true).step ⟨previous, false⟩ (c, inEmail)
          = (⟨some c, false⟩, [if inEmail then c else curlQuote previous c]) := by
        simp [quotePass, hlt]
      rw [Transducer.runFrom_cons, hstep]
      refine plain_append ?_ (ih rest (some c) hrest)
      intro d' hd'
      rw [List.mem_singleton.1 hd']
      split
      · exact hc
      · exact isAngle_curlQuote previous hc
    | @tag w ws t hw _ ih =>
      intro l previous hl
      obtain ⟨marked, rest, rfl, rfl, hrest⟩ := List.map_eq_append_iff.1 hl
      rw [quotePass_runFrom_tag previous hw]
      exact tag hw (ih rest previous hrest)
  exact held (markEmails t) none (map_fst_markEmails t)

/-- **Typography.**  Markup keeps its tags if they are phrases. -/
theorem niceTypography (hphrase : ∀ w ∈ ws, Phrase w) (h : Markup ws t) :
    Markup ws (niceTypography true t) :=
  h.smartenQuotes.runFrom dashPass_keepsMarkup hphrase fun _ hd => absurd hd List.not_mem_nil

end Markup

/-! ## Text messages -/

/-- No lookalike has an angle bracket. -/
theorem isPlain_lookalikes : ∀ p ∈ Gsm.lookalikes, IsPlain p.2 := by
  decide

/-- No character but an angle bracket is sent as one. -/
theorem isPlain_downgradeCharacter {c : Char} (hc : isAngle c = false) :
    IsPlain (Gsm.downgradeCharacter c) := by
  rw [Gsm.downgradeCharacter]
  cases hlook : Gsm.lookalike? c with
  | some w => exact isPlain_lookalikes _ (Gsm.mem_lookalikes hlook)
  | none =>
    show IsPlain (if Gsm.isSendable c then [c] else ['?'])
    split
    · exact List.forall_mem_singleton.2 hc
    · decide

namespace Markup

variable {ws : List Text} {t : Text}

/-- **Downgrading.**  Markup keeps its tags if they can be sent as they are. -/
theorem downgrade (hinside : ∀ w ∈ ws, ∀ c ∈ w, Gsm.isOutside c = false) (h : Markup ws t) :
    Markup ws (Gsm.downgrade t) :=
  h.flatMap_char (fun _ hc => isPlain_downgradeCharacter hc) fun w hw =>
    Gsm.downgrade_of_inside (hinside w hw)

end Markup

/-! ## Broken lines -/

namespace Html

/-- The tags of a text between two tags when its line breaks are tags. -/
def lineBreakTags (t : Text) : List Text :=
  List.replicate (t.count '\n') "<br>".toList

theorem isTag_lineBreak : IsTag "<br>".toList :=
  ⟨"br".toList, by decide, by decide⟩

/-- A plain text is written with a tag for each line break. -/
theorem markup_breakLines_of_isPlain {t : Text} (h : IsPlain t) :
    Markup (lineBreakTags t) (breakLines t) := by
  induction t with
  | nil => exact .nil
  | cons c t ih =>
    obtain ⟨hc, ht⟩ := List.forall_mem_cons.1 h
    unfold lineBreakTags breakLines
    rw [List.flatMap_cons, List.count_cons]
    by_cases hn : c = '\n'
    · rw [hn, if_pos rfl, beq_self_eq_true, if_pos rfl, List.replicate_succ]
      exact .tag isTag_lineBreak (ih ht)
    · rw [if_neg hn, if_neg (by simpa using hn), Nat.add_zero]
      exact .char hc (ih ht)

/-- No line is broken in a text without line breaks. -/
theorem breakLines_of_not_mem {t : Text} (h : '\n' ∉ t) : breakLines t = t := by
  conv => rhs; rw [← List.flatMap_singleton' t]
  refine List.flatMap_congr fun c hc => if_neg ?_
  rintro rfl
  exact h hc

end Html

/-- **Broken lines.**  Markup whose tags stand on one line keeps them, and gets a
tag for each line break between them. -/
theorem Markup.breakLines {ws : List Text} {t : Text} (hunbroken : ∀ w ∈ ws, '\n' ∉ w)
    (h : Markup ws t) :
    Markup (Html.tagsWith Html.lineBreakTags t) (Html.breakLines t) := by
  have hpieces : Html.breakLines t
      = (Html.pieces t).flatMap fun p => Html.breakLines p.source := by
    conv => lhs; rw [← Html.flatMap_source_pieces t]
    exact List.flatMap_assoc
  rw [hpieces]
  exact h.flatMap_pieces (fun _ hu => Html.markup_breakLines_of_isPlain hu) fun w hw =>
    Html.breakLines_of_not_mem (hunbroken w hw)

/-! ## Attributes and links -/

/-- What may stand as the value of a quoted attribute: plain text without double quotes. -/
def IsAttributeValue (t : Text) : Prop :=
  ∀ c ∈ t, c ≠ '<' ∧ c ≠ '>' ∧ c ≠ '"'

/-- Whether a text may stand as such a value can be read off it. -/
instance (t : Text) : Decidable (IsAttributeValue t) :=
  decidable_of_iff ((t.any fun c => c == '<' || c == '>' || c == '"') = false)
    (by simp [IsAttributeValue, and_assoc])

theorem IsAttributeValue.isPlain {t : Text} (h : IsAttributeValue t) : IsPlain t :=
  fun c hc => isAngle_eq_false_iff.2 ⟨(h c hc).1, (h c hc).2.1⟩

/-- Text between the front and the back of a tag makes a tag of them if it is plain. -/
theorem isTag_of_parts {front middle back : Text} (hopening : front.head? = some '<')
    (hfront : IsPlain front.tail) (hmiddle : IsPlain middle) (hback : IsPlain back.dropLast)
    (hclosing : back.getLast? = some '>') : IsTag (front ++ middle ++ back) := by
  obtain ⟨inner, rfl⟩ := List.head?_eq_some_iff.1 hopening
  obtain ⟨closing, rfl⟩ := List.getLast?_eq_some_iff.1 hclosing
  rw [List.tail_cons] at hfront
  rw [List.dropLast_concat] at hback
  exact ⟨inner ++ middle ++ closing, (hfront.append hmiddle).append hback, by simp⟩

namespace Html

/-- What is escaped for an attribute may stand as its value. -/
theorem isAttributeValue_escapeAttribute (t : Text) : IsAttributeValue (escapeAttribute t) := by
  intro d hd
  obtain ⟨c, -, hd⟩ := List.mem_flatMap.1 hd
  unfold attributeEntity at hd
  split at hd
  · have hquot : IsAttributeValue "&quot;".toList := by decide
    exact hquot d hd
  · rename_i hc
    obtain ⟨hlt, hgt⟩ := isAngle_eq_false_iff.1 (isPlain_entity c d hd)
    refine ⟨hlt, hgt, ?_⟩
    rintro rfl
    rcases entity_eq_or c with hself | hmarkup
    · rw [hself, List.mem_singleton] at hd
      exact hc hd.symm
    · exact absurd (hmarkup (List.mem_cons_of_mem c hd)) (by decide)

/-- Link characters may stand in an attribute. -/
theorem isAttributeValue_of_isLinkCharacter {t : Text} (h : ∀ c ∈ t, isLinkCharacter c = true) :
    IsAttributeValue t := by
  intro c hc
  have hlink := h c hc
  simp only [isLinkCharacter, Bool.not_eq_true', Bool.or_eq_false_iff, beq_eq_false_iff_ne] at hlink
  exact ⟨hlink.1.1.2, hlink.1.2, hlink.2⟩

/-- The tag that opens the anchor of an address. -/
def anchorOpening (style : LinkStyle) (address : Text) : Text :=
  "<a ".toList ++ style.attributes ++ " href=\"".toList ++ address ++ "\">".toList

theorem isTag_anchorOpening (style : LinkStyle) {address : Text} (h : IsPlain address) :
    IsTag (anchorOpening style address) := by
  cases style <;>
    exact isTag_of_parts (by decide) (by decide) h (by decide) (by decide)

/-- The tag that opens an anchor stands on one line. -/
theorem newline_not_mem_anchorOpening (style : LinkStyle) {address : Text}
    (h : ∀ c ∈ address, isLinkCharacter c = true) : '\n' ∉ anchorOpening style address := by
  have hattributes : '\n' ∉ style.attributes := by cases style <;> decide
  unfold anchorOpening
  simp only [List.mem_append, not_or]
  exact ⟨⟨⟨⟨by decide, hattributes⟩, by decide⟩, newline_not_mem_of_isLinkCharacter h⟩, by decide⟩

/-- What the anchor of a link leads to. -/
def addressOf (link : Text) : Text :=
  if Text.holds schemeMark link then escape (unescape link)
  else "http://".toList ++ escape (unescape link)

/-- The address of an anchor is made of link characters. -/
theorem isLinkCharacter_addressOf {link : Text} (h : ∀ c ∈ link, isLinkCharacter c = true) :
    ∀ c ∈ addressOf link, isLinkCharacter c = true := by
  have hshown : ∀ c ∈ escape (unescape link), isLinkCharacter c = true :=
    isLinkCharacter_of_mem_shown h
  have hhttp : ∀ c ∈ "http://".toList, isLinkCharacter c = true := List.all_eq_true.1 (by decide)
  unfold addressOf
  split
  · exact hshown
  · exact List.forall_mem_append.2 ⟨hhttp, hshown⟩

theorem isTag_anchorClosing : IsTag "</a>".toList :=
  ⟨"/a".toList, by decide, by decide⟩

/-- The tags of a span: the two of an anchor around a link. -/
def Span.tags (style : LinkStyle) : Span → List Text
  | .character _ => []
  | .link t => [anchorOpening style (addressOf t), "</a>".toList]

/-- The tags of a text between two tags when its links are anchors. -/
def linkTags (style : LinkStyle) (bareDomains : Bool) (t : Text) : List Text :=
  (spans bareDomains t).flatMap (Span.tags style)

/-- An anchor is an opening tag, the link in plain text, and a closing tag. -/
theorem anchor_eq (style : LinkStyle) (link : Text) :
    anchor style link
      = anchorOpening style (addressOf link) ++ escape (unescape link) ++ "</a>".toList := rfl

/-- **Anchors.**  An anchor has its own two tags. -/
theorem markup_anchor (style : LinkStyle) {link : Text}
    (h : ∀ c ∈ link, isLinkCharacter c = true) :
    Markup [anchorOpening style (addressOf link), "</a>".toList] (anchor style link) := by
  have haddress := isAttributeValue_of_isLinkCharacter (isLinkCharacter_addressOf h)
  have hopening := Markup.single (isTag_anchorOpening style haddress.isPlain)
  have hshown : Markup [] (escape (unescape link)) := .of_isPlain (isPlain_escape _)
  rw [anchor_eq]
  exact (hopening.append hshown).append (.single isTag_anchorClosing)

/-- A plain text is written with two tags for each link. -/
theorem markup_spans (style : LinkStyle) (bareDomains : Bool) {t : Text} (h : IsPlain t) :
    Markup (linkTags style bareDomains t) ((spans bareDomains t).flatMap (Span.html style)) := by
  refine .flatMap fun span hspan => ?_
  cases span with
  | character c =>
    exact .of_isPlain (List.forall_mem_singleton.2 (h c (mem_of_character_mem_spans hspan)))
  | link link => exact markup_anchor style (isLink_of_mem_spans hspan).characters

/-- A tag of a link opens an anchor, with an address of link characters, or closes one. -/
theorem mem_linkTags {style : LinkStyle} {bareDomains : Bool} {t w : Text}
    (h : w ∈ linkTags style bareDomains t) :
    (∃ address, (∀ c ∈ address, isLinkCharacter c = true) ∧ w = anchorOpening style address)
      ∨ w = "</a>".toList := by
  obtain ⟨span, hspan, hw⟩ := List.mem_flatMap.1 h
  cases span with
  | character c => exact absurd hw List.not_mem_nil
  | link link =>
    have hlink := isLinkCharacter_addressOf (isLink_of_mem_spans hspan).characters
    rcases List.mem_cons.1 hw with rfl | hw
    · exact Or.inl ⟨_, hlink, rfl⟩
    · exact Or.inr (List.mem_singleton.1 hw)

end Html

/-- **Links.**  Markup keeps its tags when links become anchors, and gets the two
tags of an anchor for each link between them. -/
theorem Markup.autolink {ws : List Text} {t : Text} (style : Html.LinkStyle) (bareDomains : Bool)
    (h : Markup ws t) :
    Markup (Html.tagsWith (Html.linkTags style bareDomains) t)
      (Html.autolink style bareDomains t) :=
  h.flatMap_pieces (fun _ hu => Html.markup_spans style bareDomains hu) fun _ _ => rfl

end MessageTemplate

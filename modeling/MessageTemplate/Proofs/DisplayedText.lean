/-
# Displayed text

What a reader sees of markup is the text without its tags.  Written with
anchors for its links, an escaped text shows each link read back from markup
and escaped again (`Html.withoutTags_autolink`).  That is the link itself unless
the link ends inside an entity, and the only entity a link can end in is that of
an ampersand, in front of its semicolon (`Html.exists_escape_of_mem_spans`).
Such links, and no others, are shown differently from how they were written
(`Html.autolink_shows_escape_iff`).
-/
import Mathlib
import MessageTemplate.Proofs.LinkEnd
import MessageTemplate.Proofs.Pieces

namespace MessageTemplate.Html

/-! ## Words of two lengths -/

section Lengths

variable {α β : Type} {f g : α → List β} {l : List α}

theorem length_flatMap_le (h : ∀ a ∈ l, (f a).length ≤ (g a).length) :
    (l.flatMap f).length ≤ (l.flatMap g).length := by
  rw [List.length_flatMap, List.length_flatMap]
  exact List.sum_le_sum h

/-- If no word of one list is longer than that of another in its place, the same
is written by both only if they agree word for word. -/
theorem flatMap_eq_flatMap_iff (h : ∀ a ∈ l, (f a).length ≤ (g a).length) :
    l.flatMap g = l.flatMap f ↔ ∀ a ∈ l, g a = f a := by
  refine ⟨fun heq => ?_, List.flatMap_congr⟩
  induction l with
  | nil => exact fun a ha => absurd ha List.not_mem_nil
  | cons a l ih =>
    obtain ⟨ha, hl⟩ := List.forall_mem_cons.1 h
    have hrest := length_flatMap_le hl
    have hlength := congrArg List.length heq
    rw [List.flatMap_cons, List.flatMap_cons, List.length_append, List.length_append] at hlength
    have hsame : (g a).length = (f a).length := by omega
    obtain ⟨hfirst, htail⟩ := List.append_inj heq hsame
    exact List.forall_mem_cons.2 ⟨hfirst, ih hl htail⟩

end Lengths

/-! ## Without tags -/

/-- What is left of a piece without tags. -/
def Piece.visible : Piece → Text
  | .text t => t
  | .tag _ => []

theorem withoutTags_eq (t : Text) : withoutTags t = (pieces t).flatMap Piece.visible := by
  refine List.flatMap_congr fun piece _ => ?_
  cases piece <;> rfl

/-- What stands in front of a tag is visible in front of the rest. -/
theorem flatMap_visible_runFrom (outside opened t : Text) :
    (tagPass.runFrom ⟨outside, opened⟩ t).flatMap Piece.visible
      = outside.reverse ++ (tagPass.runFrom ⟨[], opened⟩ t).flatMap Piece.visible := by
  induction t generalizing outside opened with
  | nil => simp [tagPass, Piece.visible]
  | cons c t ih =>
    rw [Transducer.runFrom_cons, Transducer.runFrom_cons, List.flatMap_append, List.flatMap_append]
    by_cases hlt : c = '<'
    · rw [hlt, tagPass_step_opening, tagPass_step_opening, ih (opened ++ outside), ih (opened ++ [])]
      simp
    rcases eq_or_ne opened [] with rfl | hopened
    · rw [tagPass_step_outside hlt, tagPass_step_outside hlt, ih (c :: outside), ih [c]]
      simp
    by_cases hgt : c = '>'
    · rw [hgt, tagPass_step_closing outside hopened, tagPass_step_closing [] hopened]
      simp [Piece.visible]
    · rw [tagPass_step_inside hlt hgt outside hopened, tagPass_step_inside hlt hgt [] hopened,
        ih outside]
      rfl

/-- Plain text is visible. -/
theorem withoutTags_plain_append {t : Text} (h : IsPlain t) (u : Text) :
    withoutTags (t ++ u) = t ++ withoutTags u := by
  rw [withoutTags_eq, withoutTags_eq]
  show (tagPass.runFrom ⟨[], []⟩ (t ++ u)).flatMap Piece.visible
    = t ++ (tagPass.runFrom ⟨[], []⟩ u).flatMap Piece.visible
  rw [tagPass_runFrom_plain h, flatMap_visible_runFrom, List.append_nil, List.reverse_reverse]

/-- A tag is not. -/
theorem withoutTags_tag_append {w : Text} (hw : IsTag w) (u : Text) :
    withoutTags (w ++ u) = withoutTags u := by
  rw [withoutTags_eq, withoutTags_eq]
  show (tagPass.runFrom ⟨[], []⟩ (w ++ u)).flatMap Piece.visible
    = (tagPass.runFrom ⟨[], []⟩ u).flatMap Piece.visible
  rw [tagPass_runFrom_tag hw]
  rfl

/-- Of an anchor the link is visible, read back from markup and escaped again. -/
theorem withoutTags_anchor_append (style : LinkStyle) {link : Text}
    (h : ∀ c ∈ link, isLinkCharacter c = true) (u : Text) :
    withoutTags (anchor style link ++ u) = escape (unescape link) ++ withoutTags u := by
  have haddress := isAttributeValue_of_isLinkCharacter (isLinkCharacter_addressOf h)
  have hopening := isTag_anchorOpening style haddress.isPlain
  rw [anchor_eq, List.append_assoc, List.append_assoc, withoutTags_tag_append hopening,
    withoutTags_plain_append (isPlain_escape _), withoutTags_tag_append isTag_anchorClosing]

/-- What is visible of a span written in markup. -/
def Span.shown : Span → Text
  | .character c => [c]
  | .link t => escape (unescape t)

/-- **Visible spans.**  Of a plain text written with anchors each character is
visible, and each link as its anchor shows it. -/
theorem withoutTags_autolink (style : LinkStyle) (bareDomains : Bool) {t : Text}
    (h : IsPlain t) :
    withoutTags (autolink style bareDomains t) = (spans bareDomains t).flatMap Span.shown := by
  have held : ∀ l : List Span, (∀ c, .character c ∈ l → isAngle c = false) →
      (∀ link, .link link ∈ l → ∀ c ∈ link, isLinkCharacter c = true) →
      withoutTags (l.flatMap (Span.html style)) = l.flatMap Span.shown := by
    intro l hcharacters hlinks
    induction l with
    | nil => rfl
    | cons span l ih =>
      have hl := ih (fun c hc => hcharacters c (List.mem_cons_of_mem span hc))
        (fun link hlink => hlinks link (List.mem_cons_of_mem span hlink))
      rw [List.flatMap_cons, List.flatMap_cons, ← hl]
      cases span with
      | character c =>
        have hc : IsPlain [c] := List.forall_mem_singleton.2 (hcharacters c List.mem_cons_self)
        exact withoutTags_plain_append hc _
      | link link =>
        exact withoutTags_anchor_append style (hlinks link List.mem_cons_self) _
  rw [autolink_of_isTagFree style bareDomains h.isTagFree]
  exact held _ (fun c hc => h c (mem_of_character_mem_spans hc))
    fun link hlink => (isLink_of_mem_spans hlink).characters

/-! ## Parts of escaped texts -/

/-- The entities of the characters that open or close markup. -/
def markupEntities : List Text :=
  ["&amp;".toList, "&lt;".toList, "&gt;".toList]

/-- A character is written as itself, or as one of these entities. -/
theorem entity_eq_singleton_or_mem (c : Char) : entity c = [c] ∨ entity c ∈ markupEntities := by
  unfold entity
  split
  · exact Or.inr (by decide)
  split
  · exact Or.inr (by decide)
  split
  · exact Or.inr (by decide)
  · exact Or.inl rfl

/-- The rest of an entity is an escaped text. -/
theorem exists_escape_of_suffix_entity {s : Text} {c : Char} (h : s <:+ entity c) :
    ∃ u, s = escape u := by
  rcases entity_eq_singleton_or_mem c with hself | hmarkup
  · rw [hself, List.suffix_cons_iff, List.suffix_nil] at h
    rcases h with rfl | rfl
    · exact ⟨[c], by rw [escape_cons, escape_nil, List.append_nil, hself]⟩
    · exact ⟨[], rfl⟩
  · have htable : ∀ e ∈ markupEntities, ∀ s ∈ e.tails, s = escape (unescape s) := by decide
    exact ⟨unescape s, htable _ hmarkup s ((List.mem_tails _ _).2 h)⟩

/-- The rest of an escaped text is one. -/
theorem exists_escape_of_suffix {s t : Text} (h : s <:+ escape t) : ∃ u, s = escape u := by
  induction t with
  | nil => exact ⟨[], List.suffix_nil.1 h⟩
  | cons c t ih =>
    obtain ⟨front, hfront⟩ := h
    rw [escape_cons] at hfront
    rcases List.append_eq_append_iff.1 hfront with ⟨inside, hentity, hs⟩ | ⟨between, -, hrest⟩
    · obtain ⟨v, hv⟩ := exists_escape_of_suffix_entity ⟨front, hentity.symm⟩
      exact ⟨v ++ t, by rw [hs, hv, escape_append]⟩
    · exact ih ⟨between, hrest.symm⟩

/-- A place inside an entity: some of it stands before and some behind. -/
structure IsInside (c : Char) (cut : Text) (d : Char) (rest : Text) : Prop where
  entity_eq : entity c = cut ++ d :: rest
  ne_nil : cut ≠ []

namespace IsInside

variable {c d : Char} {cut rest : Text}

/-- A character that is written as itself has no inside. -/
theorem mem_markupEntities (h : IsInside c cut d rest) : entity c ∈ markupEntities := by
  rcases entity_eq_singleton_or_mem c with hself | hmarkup
  · have hlength := congrArg List.length (hself.symm.trans h.entity_eq)
    have := List.length_pos_of_ne_nil h.ne_nil
    simp only [List.length_append, List.length_cons, List.length_nil] at hlength
    omega
  · exact hmarkup

/-- An entity starts with an ampersand. -/
theorem head?_eq (h : IsInside c cut d rest) : cut.head? = some '&' := by
  have htable : ∀ e ∈ markupEntities, e.head? = some '&' := by decide
  have hhead := htable _ h.mem_markupEntities
  rwa [h.entity_eq, List.head?_append_of_ne_nil _ h.ne_nil] at hhead

/-- An entity goes on with letters until its last character. -/
theorem entity_eq_concat (h : IsInside c cut d rest) (hd : d.isAlphanum = false) :
    entity c = cut ++ [d] := by
  have htable : ∀ e ∈ markupEntities, ∀ cut ∈ e.inits, cut ≠ [] →
      (e.drop cut.length).head?.all Char.isAlphanum = true
        ∨ (e.drop cut.length).length = 1 := by
    decide
  have hcut : cut <+: entity c := ⟨d :: rest, h.entity_eq.symm⟩
  have hnext := htable _ h.mem_markupEntities cut ((List.mem_inits _ _).2 hcut) h.ne_nil
  rw [h.entity_eq, List.drop_left] at hnext
  rcases hnext with hnext | hlast
  · rw [List.head?_cons, Option.all_some, hd] at hnext
    cases hnext
  · rw [List.length_cons, Nat.add_eq_right, List.length_eq_zero_iff] at hlast
    rw [h.entity_eq, hlast]

end IsInside

/-- The start of an escaped text is one, up to the start of an entity that goes
on behind it. -/
theorem exists_escape_of_append {s front after : Text} (h : escape s = front ++ after) :
    ∃ u cut, front = escape u ++ cut
      ∧ (cut ≠ [] → ∃ c d rest, IsInside c cut d rest ∧ after.head? = some d) := by
  induction s generalizing front with
  | nil =>
    obtain ⟨rfl, -⟩ := List.append_eq_nil_iff.1 h.symm
    exact ⟨[], [], rfl, fun hne => absurd rfl hne⟩
  | cons c s ih =>
    rw [escape_cons] at h
    rcases List.append_eq_append_iff.1 h with ⟨more, hfront, hrest⟩ | ⟨inside, hentity, hafter⟩
    · obtain ⟨u, cut, hmore, hcut⟩ := ih hrest
      exact ⟨c :: u, cut, by rw [hfront, hmore, escape_cons, List.append_assoc], hcut⟩
    · cases inside with
      | nil =>
        refine ⟨[c], [], ?_, fun hne => absurd rfl hne⟩
        rw [List.append_nil] at hentity ⊢
        rw [escape_cons, escape_nil, List.append_nil, hentity]
      | cons d rest =>
        exact ⟨[], front, rfl, fun hne => ⟨c, d, rest, ⟨hentity, hne⟩, by rw [hafter]; rfl⟩⟩

/-- What stands in front of an ampersand in an escaped text is an escaped text. -/
theorem exists_escape_before_ampersand {s front after : Text}
    (h : escape s = front ++ '&' :: after) : ∃ u, front = escape u := by
  obtain ⟨u, cut, rfl, hcut⟩ := exists_escape_of_append h
  rcases eq_or_ne cut [] with rfl | hne
  · exact ⟨u, List.append_nil _⟩
  · -- no entity has a second ampersand
    obtain ⟨c, d, rest, hinside, hnext⟩ := hcut hne
    obtain rfl : '&' = d := Option.some.inj hnext
    have htable : ∀ e ∈ markupEntities, e.getLast? ≠ some '&' := by decide
    refine absurd ?_ (htable _ hinside.mem_markupEntities)
    rw [hinside.entity_eq_concat (by decide), List.getLast?_concat]

/-- An escaped text in which the entity of an ampersand starts has all of it. -/
theorem exists_escape_behind_ampersand {s after : Text} (h : "&amp".toList ++ after = escape s) :
    ∃ v, after = ';' :: escape v := by
  cases s with
  | nil => cases h
  | cons c v =>
    rw [escape_cons] at h
    have hamp : entity c = "&amp".toList ++ [';'] := by
      rcases entity_eq_singleton_or_mem c with hself | hmarkup
      · rw [hself] at h
        obtain rfl : '&' = c := (List.cons.inj h).1
        exact absurd hself (by decide)
      · have htable : ∀ e ∈ markupEntities, "&amp".toList.length ≤ e.length
            ∧ ("&amp".toList <+: e → e = "&amp".toList ++ [';']) := by
          decide
        obtain ⟨hlong, hamp⟩ := htable _ hmarkup
        exact hamp (List.prefix_of_prefix_length_le ⟨after, h⟩ ⟨escape v, rfl⟩ hlong)
    rw [hamp, List.append_assoc] at h
    exact ⟨v, List.append_cancel_left h⟩

/-- An escaped text stays one where the entity of an ampersand in it is escaped
once more. -/
theorem exists_escape_of_ampersand {s front after : Text}
    (h : front ++ ("&amp".toList ++ after) = escape s) :
    ∃ s', front ++ ("&amp;amp".toList ++ after) = escape s' := by
  obtain ⟨u, rfl⟩ := exists_escape_before_ampersand h.symm
  obtain ⟨tail, htail⟩ := exists_escape_of_suffix ⟨escape u, h⟩
  obtain ⟨v, rfl⟩ := exists_escape_behind_ampersand htail
  refine ⟨u ++ "&amp;".toList ++ v, ?_⟩
  rw [escape_append, escape_append, List.append_assoc]
  rfl

/-! ## Links in escaped texts -/

/-- **Links in escaped texts.**  A link in an escaped text is an escaped text,
or one with the entity of an ampersand behind it that lacks its semicolon. -/
theorem exists_escape_of_mem_spans {bareDomains : Bool} {t link : Text}
    (h : .link link ∈ spans bareDomains (escape t)) :
    ∃ u, link = escape u ∨ link = escape u ++ "&amp".toList := by
  obtain ⟨before, after, hsplit, hends⟩ := ends_of_mem_spans h
  obtain ⟨s, hs⟩ := exists_escape_of_suffix ⟨before, hsplit.symm⟩
  obtain ⟨u, cut, rfl, hcut⟩ := exists_escape_of_append hs.symm
  refine ⟨u, ?_⟩
  rcases eq_or_ne cut [] with rfl | hne
  · exact Or.inl (List.append_nil _)
  obtain ⟨c, d, rest, hinside, hafter⟩ := hcut hne
  have hmem : '&' ∈ escape u ++ cut :=
    List.mem_append_right _ (List.mem_of_head? hinside.head?_eq)
  -- the text goes on with a character that completes the entity
  have hcomplete := hinside.entity_eq_concat ((hends hmem).next d hafter)
  have hsuffix : entity c <:+ escape u ++ cut ++ [d] :=
    ⟨escape u, by rw [hcomplete, List.append_assoc]⟩
  have htable : ∀ e ∈ markupEntities, e ∈ endingEntities ∨ e = "&amp;".toList := by decide
  rcases htable _ hinside.mem_markupEntities with hending | hamp
  · exact absurd hsuffix ((hends hmem).entity d hafter _ hending)
  · have hlast := congrArg List.dropLast (hcomplete.symm.trans hamp)
    rw [List.dropLast_concat] at hlast
    exact Or.inr (by rw [hlast]; rfl)

/-- No escaped text ends inside an entity. -/
theorem not_suffix_escape (u : Text) : ¬ "&amp".toList <:+ escape u := by
  intro h
  obtain ⟨v, hv⟩ := exists_escape_of_suffix h
  have hread := congrArg unescape hv
  rw [unescape_escape] at hread
  rw [← hread] at hv
  exact absurd hv (by decide)

/-- A link is shown as it was written, or it ends in front of the semicolon of
an ampersand and is shown as if the entity had been escaped once more. -/
theorem shown_of_mem_spans {bareDomains : Bool} {t link : Text}
    (h : .link link ∈ spans bareDomains (escape t)) :
    ¬ "&amp".toList <:+ link ∧ escape (unescape link) = link
      ∨ ∃ u, link = escape u ++ "&amp".toList
        ∧ escape (unescape link) = escape u ++ "&amp;amp".toList := by
  obtain ⟨u, rfl | rfl⟩ := exists_escape_of_mem_spans h
  · exact Or.inl ⟨not_suffix_escape u, by rw [unescape_escape]⟩
  · refine Or.inr ⟨u, rfl, ?_⟩
    rw [unescape_escape_append, escape_append]
    rfl

/-- A link is shown as it was written exactly if it does not end so. -/
theorem shown_eq_iff {bareDomains : Bool} {t link : Text}
    (h : .link link ∈ spans bareDomains (escape t)) :
    escape (unescape link) = link ↔ ¬ "&amp".toList <:+ link := by
  rcases shown_of_mem_spans h with ⟨hends, hshown⟩ | ⟨u, hlink, hshown⟩
  · exact iff_of_true hshown hends
  · refine iff_of_false (fun heq => ?_) (not_not_intro ⟨escape u, hlink.symm⟩)
    rw [hshown] at heq
    exact absurd (List.append_cancel_left (heq.trans hlink)) (by decide)

/-- No span is shown shorter than it was written. -/
theorem length_source_le_shown {bareDomains : Bool} {t : Text} {span : Span}
    (h : span ∈ spans bareDomains (escape t)) : span.source.length ≤ span.shown.length := by
  cases span with
  | character c => exact Nat.le_refl 1
  | link link =>
    show link.length ≤ (escape (unescape link)).length
    rcases shown_of_mem_spans h with ⟨-, hshown⟩ | ⟨u, hlink, hshown⟩
    · rw [hshown]
    · have hlonger : "&amp".toList.length ≤ "&amp;amp".toList.length := by decide
      rw [hshown, hlink, List.length_append, List.length_append]
      omega

/-! ## What a reader sees -/

/-- The text displayed is the text as it was written exactly if no link in it
ends in front of the semicolon of an ampersand. -/
theorem withoutTags_autolink_escape_iff (style : LinkStyle) (bareDomains : Bool) (t : Text) :
    withoutTags (autolink style bareDomains (escape t)) = escape t
      ↔ ∀ link, .link link ∈ spans bareDomains (escape t) → ¬ "&amp".toList <:+ link := by
  rw [withoutTags_autolink style bareDomains (isPlain_escape t)]
  conv => lhs; rhs; rw [← flatMap_source_spans bareDomains (escape t)]
  rw [flatMap_eq_flatMap_iff fun span => length_source_le_shown]
  constructor
  · intro h link hlink
    exact (shown_eq_iff hlink).1 (h _ hlink)
  · intro h span hspan
    cases span with
    | character c => rfl
    | link link => exact (shown_eq_iff hspan).2 (h link hspan)

/-- The text displayed is an escaped text. -/
theorem exists_withoutTags_autolink (style : LinkStyle) (bareDomains : Bool) (t : Text) :
    ∃ s, withoutTags (autolink style bareDomains (escape t)) = escape s := by
  -- what is shown so far and what is yet to be read make an escaped text
  have held : ∀ (l : List Span) (front s : Text),
      (∀ span ∈ l, span ∈ spans bareDomains (escape t)) →
      front ++ l.flatMap Span.source = escape s →
      ∃ s', front ++ l.flatMap Span.shown = escape s' := by
    intro l
    induction l with
    | nil => exact fun front s _ hs => ⟨s, hs⟩
    | cons span l ih =>
      intro front s hl hs
      obtain ⟨hspan, hrest⟩ := List.forall_mem_cons.1 hl
      rw [List.flatMap_cons, ← List.append_assoc] at hs ⊢
      cases span with
      | character c => exact ih (front ++ [c]) s hrest hs
      | link link =>
        rcases shown_of_mem_spans hspan with ⟨-, hshown⟩ | ⟨u, hlink, hshown⟩
        · refine ih _ s hrest ?_
          show front ++ escape (unescape link) ++ _ = _
          rw [hshown]
          exact hs
        · have hsource : front ++ escape u ++ ("&amp".toList ++ l.flatMap Span.source)
              = escape s := by
            rw [← hs, ← List.append_assoc, List.append_assoc front, ← hlink]
            rfl
          obtain ⟨s', hs'⟩ := exists_escape_of_ampersand hsource
          refine ih _ s' hrest ?_
          show front ++ escape (unescape link) ++ _ = _
          rw [← hs', hshown, List.append_assoc, List.append_assoc, List.append_assoc]
  rw [withoutTags_autolink style bareDomains (isPlain_escape t)]
  exact held _ [] t (fun _ => id) (flatMap_source_spans bareDomains (escape t))

/-- **Displayed text.**  A text is displayed as it is, and read as it is,
exactly if no link in it ends in front of the semicolon of an ampersand.  The
semicolon is closing punctuation there, and what is left of the entity is
escaped once more. -/
theorem autolink_shows_escape_iff (style : LinkStyle) (bareDomains : Bool) (t : Text) :
    (withoutTags (autolink style bareDomains (escape t)) = escape t
        ↔ ∀ link, .link link ∈ spans bareDomains (escape t) → ¬ "&amp".toList <:+ link)
      ∧ (unescape (withoutTags (autolink style bareDomains (escape t))) = t
        ↔ ∀ link, .link link ∈ spans bareDomains (escape t) → ¬ "&amp".toList <:+ link) := by
  have hdisplayed := withoutTags_autolink_escape_iff style bareDomains t
  refine ⟨hdisplayed, ?_⟩
  obtain ⟨s, hs⟩ := exists_withoutTags_autolink style bareDomains t
  rw [hs] at hdisplayed ⊢
  rw [unescape_escape, ← hdisplayed, escape_injective.eq_iff]

/-- An ampersand behind a link is displayed as its entity. -/
theorem ampersand_behind_link_displayed_as_entity :
    let t : Text := "http://a.b/&".toList
    withoutTags (autolink .preview false (escape t)) = "http://a.b/&amp;amp;".toList
      ∧ escape t = "http://a.b/&amp;".toList
      ∧ unescape "http://a.b/&amp;amp;".toList ≠ t := by
  intro t
  have hraw : rawLink? false none ('h' :: "ttp://a.b/&amp;".toList)
      = some "http://a.b/&amp;".toList := by decide
  have hspansOfRaw : spansOfRaw none "http://a.b/&amp;".toList
      = [.link "http://a.b/&amp".toList, .character ';'] := by decide
  have hspans : spans false (escape t) = [.link "http://a.b/&amp".toList, .character ';'] := by
    show spansAux false none ('h' :: "ttp://a.b/&amp;".toList) [] = _
    rw [spansAux, hraw]
    dsimp only
    rw [hspansOfRaw]
    show spansAux false (some ';') [] [.character ';', .link "http://a.b/&amp".toList] = _
    rw [spansAux]
    rfl
  refine ⟨?_, by decide, by decide⟩
  rw [withoutTags_autolink _ _ (isPlain_escape t), hspans]
  decide

end MessageTemplate.Html

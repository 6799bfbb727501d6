/-
# What stands around a link

A link is no part of a longer word or of an email address if the characters
around it are no letters, no numerals and no at signs: if they stand apart from
it.  In front of a link the character always does.  Behind it, it does wherever
the reading came to its own end, or was cut back; only a host name ends without
a look at what follows, so that the text can go on with an at sign, a digit or a
capital letter, or with a small letter behind 63 of them
(`Html.exists_topLevel_of_host?`).

`Html.link_apart_iff` says which links stand apart, and
`Html.part_of_address_linked` shows one that does not.
-/
import Mathlib
import MessageTemplate.Proofs.LinkEnd
import MessageTemplate.Proofs.Pattern
import MessageTemplate.Proofs.Pieces

namespace MessageTemplate.Html

/-! ## Characters that stand apart -/

/-- Whether a character next to a link is no part of the same word or address: it
is no letter, no numeral and no at sign. -/
def standsApart (c : Char) : Bool :=
  !(isAlphanumeric c || c == '@')

/-- What holds of each code point between those of two characters holds of the
characters between the two. -/
theorem of_le_of_le {p : Char → Bool} {first last c : Char}
    (h : ∀ n ∈ List.range' first.toNat (last.toNat + 1 - first.toNat), p (Char.ofNat n) = true)
    (hfirst : first ≤ c) (hlast : c ≤ last) : p c = true := by
  have hlow : first.toNat ≤ c.toNat := UInt32.le_iff_toNat_le.1 hfirst
  have hhigh : c.toNat ≤ last.toNat := UInt32.le_iff_toNat_le.1 hlast
  have hn := h c.toNat (List.mem_range'_1.2 (by omega))
  rwa [Char.ofNat_toNat] at hn

/-- Blank characters stand apart. -/
theorem standsApart_of_isBlank {c : Char} (h : isBlank c = true) : standsApart c = true := by
  simp only [isBlank, Bool.or_eq_true, Bool.and_eq_true, beq_iff_eq, decide_eq_true_eq] at h
  rcases h with (((((((((rfl | ⟨hfirst, hlast⟩) | rfl) | rfl) | rfl) | ⟨hfirst, hlast⟩) | rfl)
    | rfl) | rfl) | rfl) | rfl
  all_goals first
    | decide +kernel
    | exact of_le_of_le (by decide +kernel) hfirst hlast

/-- What may stand in no link stands apart. -/
theorem standsApart_of_isLinkCharacter_eq_false {c : Char} (h : isLinkCharacter c = false) :
    standsApart c = true := by
  simp only [isLinkCharacter, Bool.not_eq_false', Bool.or_eq_true, beq_iff_eq] at h
  rcases h with ((hblank | rfl) | rfl) | rfl
  · exact standsApart_of_isBlank hblank
  all_goals decide +kernel

/-- What a link is cut back before stands apart. -/
theorem standsApart_of_mem_closers : ∀ c ∈ closers, standsApart c = true :=
  List.all_eq_true.1 (by decide +kernel)

/-- What does not make a link a part of something longer stands apart. -/
theorem standsApart_of_joinsLink_eq_false {c : Char} (h : joinsLink c = false) :
    standsApart c = true := by
  simp only [joinsLink, Bool.or_eq_false_iff] at h
  obtain ⟨⟨⟨⟨halphanumeric, hat⟩, -⟩, -⟩, -⟩ := h.1
  rw [standsApart, halphanumeric, hat]
  rfl

/-! ## The end of a host name -/

/-- Where a top-level domain is read and a small letter follows, it is as long as
it can be. -/
theorem length_of_topLevel? {letters after : Text} {d : Char}
    (h : topLevel? (letters ++ after) = some letters) (hd : after.head? = some d)
    (hlower : d.isLower = true) : letters.length = 63 := by
  obtain ⟨hletters, -⟩ := isTopLevel_topLevel? h
  obtain ⟨more, rfl⟩ := List.head?_eq_some_iff.1 hd
  unfold topLevel? at h
  dsimp only at h
  rw [List.takeWhile_append_of_pos hletters.isLower, List.takeWhile_cons_of_pos hlower] at h
  split at h
  · have hlength := congrArg List.length (Option.some.inj h)
    rw [List.length_take, List.length_append, List.length_cons] at hlength
    have hle := hletters.le
    omega
  · cases h

/-- A host name ends with a dot and a top-level domain, and goes on with no small
letter unless that has 63 of them. -/
theorem exists_topLevel_of_host? {host after : Text} (h : host? (host ++ after) = some host) :
    ∃ front letters, host = front ++ '.' :: letters ∧ IsTopLevel letters
      ∧ ∀ d, after.head? = some d → d.isLower = true → letters.length = 63 := by
  refine host?_induction (motive := fun t host => ∀ after, t = host ++ after →
    ∃ front letters, host = front ++ '.' :: letters ∧ IsTopLevel letters
      ∧ ∀ d, after.head? = some d → d.isLower = true → letters.length = 63) ?_ h after rfl
  intro t rest tail hrest _ htail after ht
  have hsplit := List.takeWhile_append_dropWhile (p := isLabelCharacter) (l := t)
  rw [hrest] at hsplit
  have hbehind : rest = tail ++ after := by
    rw [List.append_assoc] at ht
    exact (List.cons.inj (List.append_cancel_left (hsplit.trans ht))).2
  rcases htail with hhost | htop
  · obtain ⟨front, letters, rfl, hletters, hends⟩ := hhost after hbehind
    exact ⟨t.takeWhile isLabelCharacter ++ '.' :: front, letters, by simp, hletters, hends⟩
  · rw [hbehind] at htop
    exact ⟨t.takeWhile isLabelCharacter, tail, rfl, (isTopLevel_topLevel? htop).1,
      fun d => length_of_topLevel? htop⟩

/-- Whether a character cuts a host name out of a longer word: it is an at sign,
or a letter or numeral with which the host name cannot go on.  A small letter is
one only if 63 of them stand in front of it. -/
def cutsHost (host : Text) (next : Char) : Bool :=
  next == '@' || (isAlphanumeric next
    && (!next.isLower || (host.reverse.takeWhile Char.isLower).length == 63))

/-- Behind a host name stands what stands apart, or what cuts it out. -/
theorem cutsHost_of_host? {host after : Text} (h : host? (host ++ after) = some host) {d : Char}
    (hd : after.head? = some d) (hjoined : standsApart d = false) : cutsHost host d = true := by
  obtain ⟨front, letters, rfl, hletters, hends⟩ := exists_topLevel_of_host? h
  have hrun : (front ++ '.' :: letters).reverse.takeWhile Char.isLower = letters.reverse := by
    have hlower : ∀ c ∈ letters.reverse, c.isLower = true :=
      fun c hc => hletters.isLower c (List.mem_reverse.1 hc)
    rw [List.reverse_append, List.reverse_cons, List.append_assoc,
      List.takeWhile_append_of_pos hlower, List.singleton_append,
      List.takeWhile_cons_of_neg (by decide), List.append_nil]
  simp only [standsApart, Bool.not_eq_false', Bool.or_eq_true] at hjoined
  simp only [cutsHost, Bool.or_eq_true, Bool.and_eq_true, Bool.not_eq_true', beq_iff_eq, hrun,
    List.length_reverse]
  rcases hjoined with halphanumeric | hat
  · refine Or.inr ⟨halphanumeric, ?_⟩
    cases hlower : d.isLower with
    | false => exact Or.inl rfl
    | true => exact Or.inr (hends d hd hlower)
  · exact Or.inl (beq_iff_eq.1 hat)

/-- What cuts a host name out of a longer word does not stand apart. -/
theorem standsApart_of_cutsHost {host : Text} {d : Char} (h : cutsHost host d = true) :
    standsApart d = false := by
  simp only [cutsHost, Bool.or_eq_true, Bool.and_eq_true] at h
  rw [standsApart, Bool.not_eq_false', Bool.or_eq_true]
  exact h.symm.imp_left And.left

/-! ## Around a link -/

/-- In front of a link the text stands apart. -/
theorem IsLinkAt.standsApart_before {bareDomains : Bool} {before link after : Text}
    (h : IsLinkAt bareDomains before link after) : before.getLast?.all standsApart = true := by
  have hjoins := h.joins
  cases hlast : before.getLast? with
  | none => rfl
  | some c =>
    rw [hlast] at hjoins
    exact standsApart_of_joinsLink_eq_false hjoins

/-- Behind a link the text stands apart, unless the link is a host name read up
to its end. -/
theorem IsLinkAt.standsApart_after {bareDomains : Bool} {before link after : Text}
    (h : IsLinkAt bareDomains before link after) {d : Char} (hd : after.head? = some d) :
    standsApart d = true ∨ host? (link ++ after) = some link := by
  obtain ⟨dropped, rest, rfl, -, hraw, hdropped⟩ := h.exists_dropped
  cases dropped with
  | nil =>
    rw [List.append_nil] at hraw
    exact (behind_rawLink? hraw).imp_left
      fun hends => standsApart_of_isLinkCharacter_eq_false (hends d hd)
  | cons c dropped =>
    exact Or.inl (standsApart_of_mem_closers d (hdropped d hd))

/-- A host name has no mark that starts a path. -/
theorem any_isPathMark_of_host? {t host : Text} (h : host? t = some host) :
    host.any isPathMark = false := by
  refine List.any_eq_false.2 fun c hc hmark => ?_
  simp only [isPathMark, Bool.or_eq_true, beq_iff_eq] at hmark
  rcases isLabelCharacter_or_dot_of_mem_host? h hc with hlabel | rfl
  · rcases hmark with (rfl | rfl) | rfl <;> exact absurd hlabel (by decide)
  · exact absurd hmark (by decide)

/-- Behind a link the text stands apart exactly if the link has more than a host
name, or the host name is not cut out of a longer word. -/
theorem IsLinkAt.standsApart_after_iff {bareDomains : Bool} {before link after : Text}
    (h : IsLinkAt bareDomains before link after) :
    after.head?.all standsApart = true
      ↔ link.any isPathMark = true ∨ after.head?.any (cutsHost link) = false := by
  cases hd : after.head? with
  | none => exact iff_of_true rfl (Or.inr rfl)
  | some d =>
    show standsApart d = true ↔ _ ∨ cutsHost link d = false
    constructor
    · intro hapart
      refine Or.inr (Bool.eq_false_iff.2 fun hcuts => ?_)
      rw [standsApart_of_cutsHost hcuts] at hapart
      cases hapart
    · intro hwhole
      rcases h.standsApart_after hd with hapart | hhost
      · exact hapart
      rcases hwhole with hmark | hcuts
      · rw [any_isPathMark_of_host? hhost] at hmark
        cases hmark
      · cases hapart : standsApart d with
        | true => rfl
        | false =>
          rw [cutsHost_of_host? hhost hd hapart] at hcuts
          cases hcuts

/-- **Whole words.**  In a text without tags, where bare domains are looked for,
each link is a part of the text that is written as an anchor.  In front of it the
text stands apart.  Behind it, it does exactly if the link has a path, a query or
a fragment, or is not cut out of a longer word. -/
theorem link_apart_iff (style : LinkStyle) {t link : Text} {l r : List Span} (ht : IsTagFree t)
    (h : spans true t = l ++ .link link :: r) :
    t = l.flatMap Span.source ++ (link ++ r.flatMap Span.source)
      ∧ autolink style true t
        = l.flatMap (Span.html style) ++ (anchor style link ++ r.flatMap (Span.html style))
      ∧ (l.flatMap Span.source).getLast?.all standsApart = true
      ∧ ((r.flatMap Span.source).head?.all standsApart = true
        ↔ link.any isPathMark = true
          ∨ (r.flatMap Span.source).head?.any (cutsHost link) = false) := by
  have hlink := isLinkAt_of_spans_eq h
  refine ⟨eq_append_of_spans_eq h, ?_, hlink.standsApart_before, hlink.standsApart_after_iff⟩
  rw [autolink_of_isTagFree style true ht, h, List.flatMap_append, List.flatMap_cons]
  rfl

/-- A domain in front of an exclamation mark stands apart. -/
theorem domain_before_exclamation_mark_apart :
    let t : Text := "gov.uk!".toList
    IsTagFree t ∧ spans true t = [.link "gov.uk".toList, .character '!']
      ∧ autolink .preview true t = anchor .preview "gov.uk".toList ++ "!".toList
      ∧ standsApart '!' = true := by
  intro t
  have ht : IsTagFree t := IsPlain.isTagFree (by decide)
  have hspans : spans true t = [.link "gov.uk".toList, .character '!'] := by decide +kernel
  obtain ⟨-, hwritten, -, hiff⟩ := link_apart_iff .preview (l := []) ht hspans
  exact ⟨ht, hspans, hwritten, hiff.2 (Or.inr (by decide +kernel))⟩

/-- The name in an email address is linked where it has a dot. -/
theorem part_of_address_linked :
    let t : Text := "me.you@a.bc".toList
    IsTagFree t ∧ spans true t = .link "me.you".toList :: "@a.bc".toList.map .character
      ∧ rawLink? true none t = some "me.you".toList
      ∧ Text.holds schemeMark "me.you".toList = false
      ∧ autolink .preview true t = anchor .preview "me.you".toList ++ "@a.bc".toList
      ∧ standsApart '@' = false := by
  intro t
  have ht : IsTagFree t := IsPlain.isTagFree (by decide)
  have hspans : spans true t = .link "me.you".toList :: "@a.bc".toList.map .character := by
    decide +kernel
  refine ⟨ht, hspans, by decide +kernel, by decide, ?_, by decide +kernel⟩
  rw [autolink_of_isTagFree .preview true ht, hspans]
  rfl

end MessageTemplate.Html

/-
# Links in a text

Reading a text for links loses nothing: the spans make the text up
(`Html.flatMap_source_spans`), and every link is read where it stands
(`Html.isLinkAt_of_spans_eq`).  A link holds link characters only
(`Html.isLink_of_mem_spans`), and so does what its anchor shows of it
(`Html.isLinkCharacter_of_mem_shown`), so it stays on one line and ends no
attribute.  Where bare domains are not looked for it starts with a letter.
-/
import Mathlib
import MessageTemplate.Html.Link
import MessageTemplate.Proofs.FirstMark

namespace MessageTemplate

/-! ## Characters of links -/

/-- Letters and digits of the basic range are among the first 128 characters. -/
theorem toNat_lt_of_isAlphanum {c : Char} (h : c.isAlphanum = true) : c.toNat < 128 := by
  simp only [Char.isAlphanum, Char.isAlpha, Char.isUpper, Char.isLower, Char.isDigit,
    Bool.or_eq_true, Bool.and_eq_true, decide_eq_true_eq, ge_iff_le, UInt32.le_iff_toNat_le] at h
  have hupper : 'Z'.val.toNat = 90 := rfl
  have hlower : 'z'.val.toNat = 122 := rfl
  have hdigit : '9'.val.toNat = 57 := rfl
  show c.val.toNat < 128
  omega

/-- What holds of each of the first 128 characters holds of letters and digits. -/
theorem of_isAlphanum {p : Char → Bool} (h : ∀ n < 128, p (Char.ofNat n) = true) {c : Char}
    (hc : c.isAlphanum = true) : p c = true := by
  have hn := h c.toNat (toNat_lt_of_isAlphanum hc)
  rwa [Char.ofNat_toNat] at hn

namespace Html

/-- Letters and digits may stand in a link. -/
theorem isLinkCharacter_of_isAlphanum {c : Char} (h : c.isAlphanum = true) :
    isLinkCharacter c = true := by
  have htable : ∀ n < 128,
      (!(Char.ofNat n).isAlphanum || isLinkCharacter (Char.ofNat n)) = true := by
    decide +kernel
  simpa [h] using of_isAlphanum (p := fun c => !c.isAlphanum || isLinkCharacter c) htable h

theorem isLinkCharacter_of_isSchemeLetter {c : Char} (h : isSchemeLetter c = true) :
    isLinkCharacter c = true := by
  simp only [isSchemeLetter, Bool.or_eq_true, beq_iff_eq] at h
  rcases h with (h | rfl) | rfl
  · exact isLinkCharacter_of_isAlphanum (by simp [Char.isAlphanum, h])
  · decide
  · decide

theorem isLinkCharacter_of_isSchemeCharacter {c : Char} (h : isSchemeCharacter c = true) :
    isLinkCharacter c = true := by
  simp only [isSchemeCharacter, Bool.or_eq_true, beq_iff_eq] at h
  rcases h with (((h | h) | rfl) | rfl) | rfl
  · exact isLinkCharacter_of_isSchemeLetter h
  · exact isLinkCharacter_of_isAlphanum (by simp [Char.isAlphanum, h])
  · decide
  · decide
  · decide

theorem isLinkCharacter_of_isLabelCharacter {c : Char} (h : isLabelCharacter c = true) :
    isLinkCharacter c = true := by
  simp only [isLabelCharacter, Bool.or_eq_true, beq_iff_eq] at h
  rcases h with h | rfl
  · exact isLinkCharacter_of_isAlphanum h
  · decide

/-- Link characters are no line breaks. -/
theorem newline_not_mem_of_isLinkCharacter {t : Text} (h : ∀ c ∈ t, isLinkCharacter c = true) :
    '\n' ∉ t :=
  fun hn => absurd (h _ hn) (by decide)

/-! ## Addresses and domains -/

/-- A text that starts another and holds link characters only. -/
structure IsLinkFront (front t : Text) : Prop where
  isPrefix : front <+: t
  characters : ∀ c ∈ front, isLinkCharacter c = true

/-- A front goes on with a front of what is behind it. -/
theorem IsLinkFront.append {front t more : Text} (h : IsLinkFront front t)
    (hmore : IsLinkFront more (t.drop front.length)) : IsLinkFront (front ++ more) t := by
  obtain ⟨rest, rfl⟩ := h.isPrefix
  rw [List.drop_left] at hmore
  refine ⟨(List.prefix_append_right_inj front).2 hmore.isPrefix, ?_⟩
  intro c hc
  rcases List.mem_append.1 hc with hc | hc
  · exact h.characters c hc
  · exact hmore.characters c hc

/-- The characters of one sort in front of a text are a front of it. -/
theorem isLinkFront_takeWhile {p : Char → Bool} (h : ∀ c, p c = true → isLinkCharacter c = true)
    (t : Text) : IsLinkFront (t.takeWhile p) t :=
  ⟨List.takeWhile_prefix p, fun c hc => h c (List.mem_takeWhile_imp hc)⟩

theorem isLinkCharacter_of_mem_schemeMark : ∀ c ∈ schemeMark, isLinkCharacter c = true :=
  List.all_eq_true.1 (by decide)

/-- The first letter of a text is the first of its scheme. -/
theorem any_head?_takeWhile {t : Text} (h : t.head?.any isSchemeLetter = true) :
    (t.takeWhile isSchemeCharacter).head?.any isSchemeLetter = true := by
  cases t with
  | nil => cases h
  | cons c t =>
    have hc : isSchemeCharacter c = true := by
      have hletter : isSchemeLetter c = true := h
      simp [isSchemeCharacter, hletter]
    rw [List.takeWhile_cons_of_pos hc]
    exact h

/-- Behind the characters of one sort stands none of them. -/
theorem eq_false_of_head?_dropWhile {p : Char → Bool} {t : Text} {d : Char}
    (h : (t.dropWhile p).head? = some d) : p d = false := by
  have hstop := List.head?_dropWhile_not p t
  rwa [h] at hstop

/-- An address with a scheme is a scheme that starts with a letter, the mark behind
it, and all link characters that follow, of which there is one at least. -/
theorem addressWithScheme?_eq_some {t raw : Text} (h : addressWithScheme? t = some raw) :
    ∃ scheme body after, t = raw ++ after ∧ raw = scheme ++ schemeMark ++ body
      ∧ scheme.head?.any isSchemeLetter = true ∧ (∀ c ∈ scheme, isSchemeCharacter c = true)
      ∧ body ≠ [] ∧ (∀ c ∈ body, isLinkCharacter c = true)
      ∧ ∀ d, after.head? = some d → isLinkCharacter d = false := by
  unfold addressWithScheme? at h
  split at h
  · rename_i hletter
    dsimp only at h
    split at h
    · rename_i rest hafter
      split at h
      · cases h
      · rename_i hbody
        cases h
        have hscheme := List.prefix_iff_eq_append.1
          (List.takeWhile_prefix (l := t) isSchemeCharacter)
        have hsplit := List.takeWhile_append_dropWhile (p := isLinkCharacter) (l := rest)
        refine ⟨t.takeWhile isSchemeCharacter, rest.takeWhile isLinkCharacter,
          rest.dropWhile isLinkCharacter, ?_, rfl, any_head?_takeWhile hletter,
          fun c hc => List.mem_takeWhile_imp hc, ?_, fun c hc => List.mem_takeWhile_imp hc,
          fun d => eq_false_of_head?_dropWhile⟩
        · rw [List.append_assoc, hsplit, List.append_assoc, ← Text.after?_eq_some_iff.1 hafter,
            hscheme]
        · simpa using hbody
    · cases h
  · cases h

/-- An address with a scheme is a front of the text and starts with a letter. -/
theorem isLinkFront_addressWithScheme? {t raw : Text} (h : addressWithScheme? t = some raw) :
    IsLinkFront raw t ∧ raw.head?.any isSchemeLetter = true := by
  obtain ⟨scheme, body, after, rfl, rfl, hletter, hscheme, -, hbody, -⟩ :=
    addressWithScheme?_eq_some h
  refine ⟨⟨List.prefix_append _ after, fun c hc => ?_⟩, ?_⟩
  · rcases List.mem_append.1 hc with hc | hc
    · rcases List.mem_append.1 hc with hc | hc
      · exact isLinkCharacter_of_isSchemeCharacter (hscheme c hc)
      · exact isLinkCharacter_of_mem_schemeMark c hc
    · exact hbody c hc
  · cases scheme with
    | nil => cases hletter
    | cons c scheme => exact hletter

/-- A top-level domain: two to 63 small letters. -/
structure IsTopLevel (letters : Text) : Prop where
  isLower : ∀ c ∈ letters, c.isLower = true
  two_le : 2 ≤ letters.length
  le : letters.length ≤ 63

/-- What is read as a top-level domain is one, and a front of the text. -/
theorem isTopLevel_topLevel? {t letters : Text} (h : topLevel? t = some letters) :
    IsTopLevel letters ∧ letters <+: t := by
  unfold topLevel? at h
  dsimp only at h
  split at h
  · rename_i hlength
    cases h
    refine ⟨⟨fun c hc => ?_, hlength, List.length_take_le ..⟩, ?_⟩
    · exact List.mem_takeWhile_imp (List.mem_of_mem_take hc)
    · exact (List.take_prefix 63 _).trans (List.takeWhile_prefix Char.isLower)
  · cases h

/-- A small letter may stand in a label. -/
theorem isLabelCharacter_of_isLower {c : Char} (h : c.isLower = true) :
    isLabelCharacter c = true := by
  simp [isLabelCharacter, Char.isAlphanum, Char.isAlpha, h]

/-- A top-level domain is a front of the text. -/
theorem isLinkFront_topLevel? {t letters : Text} (h : topLevel? t = some letters) :
    IsLinkFront letters t := by
  obtain ⟨hletters, hfront⟩ := isTopLevel_topLevel? h
  refine ⟨hfront, fun c hc => ?_⟩
  exact isLinkCharacter_of_isLabelCharacter (isLabelCharacter_of_isLower (hletters.isLower c hc))

/-- A label and the dot behind it are a front of the text, and go on with a
front of the rest. -/
theorem IsLinkFront.behind_label {t rest tail : Text}
    (hrest : t.dropWhile isLabelCharacter = '.' :: rest) (htail : IsLinkFront tail rest) :
    IsLinkFront (t.takeWhile isLabelCharacter ++ '.' :: tail) t := by
  have hsplit := List.takeWhile_append_dropWhile (p := isLabelCharacter) (l := t)
  have hlabel := isLinkFront_takeWhile (fun _ => isLinkCharacter_of_isLabelCharacter) t
  rw [hrest] at hsplit
  constructor
  · conv => rhs; rw [← hsplit]
    exact (List.prefix_append_right_inj _).2 ((List.prefix_cons_inj '.').2 htail.isPrefix)
  · intro c hc
    rcases List.mem_append.1 hc with hc | hc
    · exact hlabel.characters c hc
    · rcases List.mem_cons.1 hc with rfl | hc
      · decide
      · exact htail.characters c hc

/-- A host name is a label, a dot, and a shorter host name or a top-level domain. -/
theorem host?_eq_some {t host : Text} (h : host? t = some host) :
    ∃ rest tail, t.dropWhile isLabelCharacter = '.' :: rest
      ∧ isLabel (t.takeWhile isLabelCharacter) = true
      ∧ (host? rest = some tail ∨ topLevel? rest = some tail)
      ∧ host = t.takeWhile isLabelCharacter ++ '.' :: tail := by
  rw [host?.eq_1] at h
  split at h
  · rename_i rest hrest
    dsimp only at h
    split at h
    · rename_i hlabel
      obtain ⟨tail, htail, rfl⟩ := Option.map_eq_some_iff.1 h
      refine ⟨rest, tail, hrest, hlabel, ?_, rfl⟩
      rcases Option.or_eq_some_iff.1 htail with hhost | ⟨-, htop⟩
      · exact Or.inl hhost
      · exact Or.inr htop
    · cases h
  · cases h

/-- What holds of every label that has a top-level domain behind it, or a host
name of which it holds, holds of every host name. -/
theorem host?_induction {motive : Text → Text → Prop}
    (label : ∀ t rest tail, t.dropWhile isLabelCharacter = '.' :: rest →
      isLabel (t.takeWhile isLabelCharacter) = true →
      motive rest tail ∨ topLevel? rest = some tail →
      motive t (t.takeWhile isLabelCharacter ++ '.' :: tail))
    {t host : Text} (h : host? t = some host) : motive t host := by
  induction hn : t.length using Nat.strong_induction_on generalizing t host with
  | _ n ih =>
    obtain ⟨rest, tail, hrest, hlabel, htail, rfl⟩ := host?_eq_some h
    refine label t rest tail hrest hlabel (htail.imp_left fun hhost => ?_)
    have hshorter : rest.length < n := by
      have hlength := (List.dropWhile_sublist (l := t) isLabelCharacter).length_le
      rw [hrest, List.length_cons, hn] at hlength
      omega
    exact ih rest.length hshorter hhost rfl

/-- A host name is a front of the text. -/
theorem isLinkFront_host? {t host : Text} (h : host? t = some host) : IsLinkFront host t :=
  host?_induction (motive := fun t host => IsLinkFront host t)
    (fun _ _ _ hrest _ htail => .behind_label hrest (htail.elim id isLinkFront_topLevel?)) h

/-- A path is nothing, or the mark that starts it and all link characters that
follow. -/
theorem pathOf_cases (t : Text) :
    pathOf t = [] ∨ ∃ mark rest after, t = pathOf t ++ after ∧ pathOf t = mark :: rest
      ∧ (mark == '/' || mark == '?' || mark == '#') = true
      ∧ (∀ c ∈ rest, isLinkCharacter c = true)
      ∧ ∀ d, after.head? = some d → isLinkCharacter d = false := by
  unfold pathOf
  split
  · rename_i c rest
    split
    · rename_i hmark
      refine Or.inr ⟨c, rest.takeWhile isLinkCharacter, rest.dropWhile isLinkCharacter, ?_, rfl,
        hmark, fun d hd => List.mem_takeWhile_imp hd, fun d => eq_false_of_head?_dropWhile⟩
      rw [List.cons_append, List.takeWhile_append_dropWhile]
    · exact Or.inl rfl
  · exact Or.inl rfl

/-- A path is a front of the text. -/
theorem isLinkFront_pathOf (t : Text) : IsLinkFront (pathOf t) t := by
  rcases pathOf_cases t with hnone | ⟨mark, rest, after, hsplit, hpath, hmark, hrest, -⟩
  · rw [hnone]
    exact ⟨List.nil_prefix, by simp⟩
  · refine ⟨⟨after, hsplit.symm⟩, ?_⟩
    rw [hpath]
    intro c hc
    rcases List.mem_cons.1 hc with rfl | hc
    · simp only [Bool.or_eq_true, beq_iff_eq] at hmark
      rcases hmark with (rfl | rfl) | rfl <;> decide
    · exact hrest c hc

/-- A bare domain is a front of the text. -/
theorem isLinkFront_bareDomain? {t raw : Text} (h : bareDomain? t = some raw) :
    IsLinkFront raw t := by
  obtain ⟨host, hhost, rfl⟩ := Option.map_eq_some_iff.1 h
  exact (isLinkFront_host? hhost).append (isLinkFront_pathOf _)

/-! ## Trimming -/

/-- A link is cut before the first of the entities that end it. -/
theorem isBeforeFirst_beforeEntity (t : Text) :
    Text.IsBeforeFirst endingEntities t (beforeEntity t) := by
  induction t with
  | nil => exact .nil
  | cons c rest ih =>
    rw [beforeEntity]
    split
    · rename_i hentity
      obtain ⟨e, he, hstarts⟩ := List.any_eq_true.1 hentity
      exact .found he (List.isPrefixOf_iff_prefix.1 hstarts)
    · rename_i hentity
      rw [Bool.not_eq_true, List.any_eq_false] at hentity
      exact ih.later fun e he hstarts => hentity e he (List.isPrefixOf_iff_prefix.2 hstarts)

/-- What stands before an entity starts the text. -/
theorem beforeEntity_isPrefix (t : Text) : beforeEntity t <+: t :=
  (isBeforeFirst_beforeEntity t).isPrefix

/-- Closing punctuation is dropped from the end, which comes first here. -/
theorem dropClosing_suffix (t : Text) : dropClosing t <:+ t := by
  induction t with
  | nil => exact List.suffix_refl []
  | cons last before ih =>
    rw [dropClosing]
    split
    · exact ih.trans (List.suffix_cons last before)
    · exact List.suffix_refl _

/-- A trimmed link starts what was read as a link. -/
theorem trimLink_isPrefix (raw : Text) : trimLink raw <+: raw := by
  have hclosing := List.reverse_prefix.2 (dropClosing_suffix (beforeEntity raw).reverse)
  rw [List.reverse_reverse] at hclosing
  exact hclosing.trans (beforeEntity_isPrefix raw)

/-- Nothing is not worth linking. -/
theorem ne_nil_of_isWorthLinking {link : Text} (h : isWorthLinking link = true) : link ≠ [] := by
  rintro rfl
  exact absurd h (by decide)

/-! ## Spans -/

/-- What is read as a link, by the settings. -/
structure IsLink (bareDomains : Bool) (link : Text) : Prop where
  ne_nil : link ≠ []
  characters : ∀ c ∈ link, isLinkCharacter c = true
  head : bareDomains = false → link.head?.any isSchemeLetter = true

/-- A part of a link from its start on, if any, is one. -/
theorem IsLink.of_prefix {bareDomains : Bool} {link raw : Text} (h : IsLink bareDomains raw)
    (hstarts : link <+: raw) (hne : link ≠ []) : IsLink bareDomains link := by
  obtain ⟨more, rfl⟩ := hstarts
  refine ⟨hne, fun c hc => h.characters c (List.mem_append_left more hc), fun hbare => ?_⟩
  cases link with
  | nil => exact absurd rfl hne
  | cons c link => exact h.head hbare

/-- What reads as a link is an address with a scheme or, where they are looked
for, a bare domain; and it starts where a word may. -/
theorem rawLink?_eq_some {bareDomains : Bool} {previous : Option Char} {t raw : Text}
    (h : rawLink? bareDomains previous t = some raw) :
    previous.any isWordCharacter = false
      ∧ (addressWithScheme? t = some raw ∨ bareDomains = true ∧ bareDomain? t = some raw) := by
  unfold rawLink? at h
  split at h
  · cases h
  · rename_i hword
    refine ⟨Bool.eq_false_iff.2 hword, (Option.or_eq_some_iff.1 h).imp_right fun hdomain => ?_⟩
    split at hdomain
    · rename_i hbare
      exact ⟨hbare, hdomain.2⟩
    · cases hdomain.2

/-- What is read as a link at the front of a text stands there. -/
theorem isLink_rawLink? {bareDomains : Bool} {previous : Option Char} {t raw : Text}
    (h : rawLink? bareDomains previous t = some raw) : raw <+: t ∧ IsLink bareDomains raw := by
  rcases (rawLink?_eq_some h).2 with haddress | ⟨rfl, hdomain⟩
  · obtain ⟨hfront, hhead⟩ := isLinkFront_addressWithScheme? haddress
    have hne : raw ≠ [] := by rintro rfl; cases hhead
    exact ⟨hfront.isPrefix, hne, hfront.characters, fun _ => hhead⟩
  · have hfront := isLinkFront_bareDomain? hdomain
    refine ⟨hfront.isPrefix, ?_, hfront.characters, fun hfalse => nomatch hfalse⟩
    obtain ⟨host, hhost, rfl⟩ := Option.map_eq_some_iff.1 hdomain
    obtain ⟨rest, tail, -, -, -, rfl⟩ := host?_eq_some hhost
    simp

/-- The characters of a text make it up, however links are written. -/
theorem flatMap_map_character {write : Span → Text} (h : ∀ c, write (.character c) = [c])
    (t : Text) : (t.map Span.character).flatMap write = t := by
  rw [List.flatMap_map, List.flatMap_congr fun c _ => h c]
  exact List.flatMap_singleton' t

/-- The spans of what was read as a link make it up. -/
theorem flatMap_source_spansOfRaw (previous : Option Char) (raw : Text) :
    (spansOfRaw previous raw).flatMap Span.source = raw := by
  unfold spansOfRaw
  dsimp only
  split
  · rw [List.flatMap_cons, flatMap_map_character fun _ => rfl]
    exact List.prefix_iff_eq_append.1 (trimLink_isPrefix raw)
  · exact flatMap_map_character (fun _ => rfl) raw

/-- What reads as a link has one link among its spans at most, and that is the
first of them: the text itself, trimmed. -/
theorem spansOfRaw_eq_append {previous : Option Char} {raw link : Text} {l r : List Span}
    (h : spansOfRaw previous raw = l ++ .link link :: r) :
    l = [] ∧ link = trimLink raw ∧ previous.any joinsLink = false
      ∧ isWorthLinking link = true := by
  -- behind the first span there are characters only
  have hnone : ∀ (t : Text) (l : List Span), t.map Span.character ≠ l ++ .link link :: r := by
    intro t l hsplit
    have hmem : .link link ∈ t.map Span.character := by simp [hsplit]
    obtain ⟨c, -, hc⟩ := List.mem_map.1 hmem
    cases hc
  unfold spansOfRaw at h
  dsimp only at h
  split at h
  · rename_i hlinked
    rw [Bool.and_eq_true, Bool.not_eq_true'] at hlinked
    cases l with
    | nil =>
      cases h
      exact ⟨rfl, rfl, hlinked⟩
    | cons s l => exact absurd (List.cons.inj h).2 (hnone _ l)
  · exact absurd h (hnone raw l)

/-- What is read on behind a link is what stands behind it, and the link is not
empty. -/
theorem drop_of_rawLink? {bareDomains : Bool} {previous : Option Char} {c : Char}
    {rest raw : Text} (h : rawLink? bareDomains previous (c :: rest) = some raw) :
    raw ++ rest.drop (raw.length - 1) = c :: rest ∧ raw ≠ [] := by
  obtain ⟨⟨more, hmore⟩, hlink⟩ := isLink_rawLink? h
  refine ⟨?_, hlink.ne_nil⟩
  cases raw with
  | nil => exact absurd rfl hlink.ne_nil
  | cons d raw =>
    rw [List.cons_append, List.cons.injEq] at hmore
    rw [← hmore.1, ← hmore.2, List.length_cons, Nat.add_sub_cancel, List.drop_left]
    rfl

/-- A link between what stands before and behind it: what reads as a link there,
trimmed and worth an anchor, with no character in front that makes it a part of
something longer. -/
structure IsLinkAt (bareDomains : Bool) (before link after : Text) : Prop where
  raw : ∃ raw, rawLink? bareDomains before.getLast? (link ++ after) = some raw
    ∧ link = trimLink raw
  joins : before.getLast?.any joinsLink = false
  worth : isWorthLinking link = true

/-- A link between two texts is one by the settings. -/
theorem IsLinkAt.isLink {bareDomains : Bool} {before link after : Text}
    (h : IsLinkAt bareDomains before link after) : IsLink bareDomains link := by
  obtain ⟨raw, hraw, htrim⟩ := h.raw
  refine IsLink.of_prefix (isLink_rawLink? hraw).2 ?_ (ne_nil_of_isWorthLinking h.worth)
  rw [htrim]
  exact trimLink_isPrefix raw

/-- How a text is read for links, behind a given character: at each place it is
asked what reads as a link there.  Where nothing does, one character is passed,
and otherwise all that reads as one. -/
inductive Scan (bareDomains : Bool) : Option Char → Text → List Span → Prop
  | done {previous : Option Char} : Scan bareDomains previous [] []
  | character {previous : Option Char} {c : Char} {rest : Text} {l : List Span} :
      rawLink? bareDomains previous (c :: rest) = none → Scan bareDomains (some c) rest l →
      Scan bareDomains previous (c :: rest) (.character c :: l)
  | raw {previous : Option Char} {raw rest : Text} {l : List Span} : raw ≠ [] →
      rawLink? bareDomains previous (raw ++ rest) = some raw →
      Scan bareDomains raw.getLast? rest l →
      Scan bareDomains previous (raw ++ rest) (spansOfRaw previous raw ++ l)

/-- The spans of a text are what it is read as. -/
theorem scan_spans (bareDomains : Bool) (t : Text) :
    Scan bareDomains none t (spans bareDomains t) := by
  have held : ∀ (previous : Option Char) (t : Text) (done : List Span),
      ∃ l, Scan bareDomains previous t l
        ∧ spansAux bareDomains previous t done = done.reverse ++ l := by
    intro previous t done
    induction previous, t, done using spansAux.induct bareDomains with
    | case1 previous done => exact ⟨[], .done, by rw [spansAux, List.append_nil]⟩
    | case2 previous done c rest hnone ih =>
      obtain ⟨l, hl, hspans⟩ := ih
      refine ⟨.character c :: l, .character hnone hl, ?_⟩
      rw [spansAux, hnone]
      simpa using hspans
    | case3 previous done c rest raw hsome ih =>
      obtain ⟨l, hl, hspans⟩ := ih
      obtain ⟨hdrop, hne⟩ := drop_of_rawLink? hsome
      refine ⟨spansOfRaw previous raw ++ l, ?_, ?_⟩
      · rw [← hdrop] at hsome ⊢
        exact .raw hne hsome hl
      · rw [spansAux, hsome]
        simpa [List.reverseAux_eq] using hspans
  obtain ⟨l, hl, hspans⟩ := held none t []
  rw [spans, hspans]
  exact hl

namespace Scan

variable {bareDomains : Bool} {previous : Option Char} {t : Text} {l r : List Span}

/-- The spans that are read make the text up. -/
theorem flatMap_source (h : Scan bareDomains previous t l) : l.flatMap Span.source = t := by
  induction h with
  | done => rfl
  | character _ _ ih =>
    rw [List.flatMap_cons, ih]
    rfl
  | raw _ _ _ ih => rw [List.flatMap_append, flatMap_source_spansOfRaw, ih]

/-- Where a link is read, behind a text that ends in the character in front, it
is a link between what stands before and behind it. -/
theorem isLinkAt {link : Text} (h : Scan bareDomains previous t (l ++ .link link :: r))
    (front : Text) (hprevious : previous = front.getLast?) :
    IsLinkAt bareDomains (front ++ l.flatMap Span.source) link (r.flatMap Span.source) := by
  generalize hsplit : l ++ .link link :: r = spans at h
  induction h generalizing front l with
  | done => exact absurd (List.append_eq_nil_iff.1 hsplit).2 (List.cons_ne_nil _ _)
  | @character previous c rest spans _ hrest ih =>
    -- a character is no link, so the link is further on
    rcases List.append_eq_cons_iff.1 hsplit with ⟨-, hlink⟩ | ⟨l, rfl, hl⟩
    · cases hlink
    · have hnext := ih (front ++ [c]) List.getLast?_concat.symm hl.symm
      rwa [List.append_assoc] at hnext
  | @raw previous raw rest spans hne hraw hrest ih =>
    have hlast : raw.getLast? = (front ++ raw).getLast? :=
      (List.getLast?_append_of_ne_nil front hne).symm
    rcases List.append_eq_append_iff.1 hsplit with ⟨l', hspansOfRaw, hl'⟩ | ⟨l', rfl, hl'⟩
    · cases l' with
      | nil =>
        -- the link is the first span behind what reads as one here
        rw [List.append_nil] at hspansOfRaw
        have hnext := ih (l := []) (front ++ raw) hlast hl'
        rw [← hspansOfRaw, flatMap_source_spansOfRaw]
        rwa [List.flatMap_nil, List.append_nil] at hnext
      | cons s l' =>
        rw [List.cons_append] at hl'
        obtain ⟨rfl, hr⟩ := List.cons.inj hl'
        obtain ⟨rfl, htrim, hjoins, hworth⟩ := spansOfRaw_eq_append hspansOfRaw
        have hsource : link ++ l'.flatMap Span.source = raw := by
          have hall := flatMap_source_spansOfRaw previous raw
          rwa [hspansOfRaw, List.nil_append, List.flatMap_cons] at hall
        rw [List.flatMap_nil, List.append_nil, hr, List.flatMap_append, hrest.flatMap_source]
        refine ⟨⟨raw, ?_, htrim⟩, ?_, hworth⟩
        · rw [← hprevious, ← List.append_assoc, hsource]
          exact hraw
        · rw [← hprevious]
          exact hjoins
    · have hnext := ih (front ++ raw) hlast hl'.symm
      rw [List.flatMap_append, flatMap_source_spansOfRaw, ← List.append_assoc]
      exact hnext

end Scan

/-- **Spans.**  The spans of a text make it up. -/
theorem flatMap_source_spans (bareDomains : Bool) (t : Text) :
    (spans bareDomains t).flatMap Span.source = t :=
  (scan_spans bareDomains t).flatMap_source

/-- A link among the spans of a text is a part of it. -/
theorem eq_append_of_spans_eq {bareDomains : Bool} {t link : Text} {l r : List Span}
    (h : spans bareDomains t = l ++ .link link :: r) :
    t = l.flatMap Span.source ++ (link ++ r.flatMap Span.source) := by
  have hsource := flatMap_source_spans bareDomains t
  rw [h, List.flatMap_append, List.flatMap_cons] at hsource
  exact hsource.symm

/-- A character among the spans of a text is one of its characters. -/
theorem mem_of_character_mem_spans {bareDomains : Bool} {t : Text} {c : Char}
    (h : .character c ∈ spans bareDomains t) : c ∈ t := by
  rw [← flatMap_source_spans bareDomains t]
  exact List.mem_flatMap.2 ⟨.character c, h, List.mem_singleton_self c⟩

/-- **Places of links.**  Where a link stands among the spans of a text, it is
one between what stands before and behind it. -/
theorem isLinkAt_of_spans_eq {bareDomains : Bool} {t link : Text} {l r : List Span}
    (h : spans bareDomains t = l ++ .link link :: r) :
    IsLinkAt bareDomains (l.flatMap Span.source) link (r.flatMap Span.source) := by
  have hscan := scan_spans bareDomains t
  rw [h] at hscan
  exact hscan.isLinkAt [] rfl

/-- **Links.**  Every link among the spans of a text is one by the settings. -/
theorem isLink_of_mem_spans {bareDomains : Bool} {t link : Text}
    (h : .link link ∈ spans bareDomains t) : IsLink bareDomains link := by
  obtain ⟨l, r, hsplit⟩ := List.append_of_mem h
  exact (isLinkAt_of_spans_eq hsplit).isLink

/-! ## Anchors -/

/-- The characters of a text without its entities are its own, but for the
angle brackets that entities stood for. -/
theorem mem_unescape {c : Char} {t : Text} (h : c ∈ unescape t) : c ∈ t ∨ c = '<' ∨ c = '>' := by
  have held : ∀ out t : Text, c ∈ unescapeAux out t → c ∈ out ∨ c ∈ t ∨ c = '<' ∨ c = '>' := by
    intro out t
    induction out, t using unescapeAux.induct with
    | case1 out rest ih | case2 out rest ih | case3 out rest ih =>
      rw [unescapeAux]
      intro hmem
      have hrest := ih hmem
      simp only [List.mem_cons] at hrest ⊢
      tauto
    | case4 out d rest h1 h2 h3 ih =>
      rw [unescapeAux.eq_4 _ _ _ h1 h2 h3]
      intro hmem
      have hrest := ih hmem
      simp only [List.mem_cons] at hrest ⊢
      tauto
    | case5 out =>
      rw [unescapeAux, List.mem_reverse]
      exact Or.inl
  rcases held [] t h with hnil | hmem
  · cases hnil
  · exact hmem

/-- An entity is written with link characters, as is the character itself if
it is one. -/
theorem isLinkCharacter_of_mem_entity {c d : Char}
    (hc : isLinkCharacter c = true ∨ c = '<' ∨ c = '>') (hd : d ∈ entity c) :
    isLinkCharacter d = true := by
  have hentities :
      ("&amp;".toList ++ "&lt;".toList ++ "&gt;".toList).all isLinkCharacter = true := by
    decide
  rw [List.all_eq_true] at hentities
  unfold entity at hd
  split at hd
  · exact hentities d (List.mem_append_left _ (List.mem_append_left _ hd))
  split at hd
  · exact hentities d (List.mem_append_left _ (List.mem_append_right _ hd))
  split at hd
  · exact hentities d (List.mem_append_right _ hd)
  · rename_i hlt hgt
    rw [List.mem_singleton.1 hd]
    exact hc.resolve_right (not_or.2 ⟨hlt, hgt⟩)

/-- **Anchors.**  What an anchor shows of a link holds link characters only. -/
theorem isLinkCharacter_of_mem_shown {link : Text} (h : ∀ c ∈ link, isLinkCharacter c = true) :
    ∀ c ∈ escape (unescape link), isLinkCharacter c = true := by
  intro d hd
  obtain ⟨c, hc, hd⟩ := List.mem_flatMap.1 hd
  refine isLinkCharacter_of_mem_entity ?_ hd
  rcases mem_unescape hc with hc | hc
  · exact Or.inl (h c hc)
  · exact Or.inr hc

end Html

end MessageTemplate

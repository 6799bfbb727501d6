/-
# The grammar of placeholders

A placeholder is a word of a grammar between double brackets, and reading a
template is a search for such words.  The grammar is `Balanced` for the
brackets of a body and `IsBody` for a body as a whole; `Reading` says which
segments are read, without saying how they are found.

The facts are `placeholderAt?_eq_some_iff` for a placeholder at the front of a
text, and `segments_eq_iff` for the segments of a template.  Together they say
that the reader accepts the grammar and nothing else.
-/
import Mathlib
import MessageTemplate.Content.Segment

namespace MessageTemplate

/-! ## Bodies -/

/-- A text whose brackets stand in pairs of equal ones, with each opening pair
closed by a pair of its own. -/
inductive Balanced : Text → Prop
  | nil : Balanced []
  | char {c : Char} {w : Text} : isBracket c = false → Balanced w → Balanced (c :: w)
  | nest {u w : Text} : Balanced u → Balanced w →
      Balanced ('(' :: '(' :: (u ++ ')' :: ')' :: w))

/-- A text whose brackets all stand behind a separator, so that none stands in
a name. -/
def BracketsBehindSeparator (t : Text) : Prop :=
  ∀ before c after, t = before ++ c :: after → isBracket c = true →
    Placeholder.separator <:+: before

/-- The bodies of placeholders. -/
structure IsBody (body : Text) : Prop where
  balanced : Balanced body
  ne_nil : body ≠ []
  brackets : BracketsBehindSeparator body

/-- A text that closes a number of open pairs: a balanced text, and for each
pair its closing brackets and a balanced text. -/
inductive Closing : Nat → Text → Prop
  | zero {w : Text} : Balanced w → Closing 0 w
  | succ {depth : Nat} {u w : Text} : Balanced u → Closing depth w →
      Closing (depth + 1) (u ++ ')' :: ')' :: w)

namespace Closing

/-- A character that is no bracket may stand in front. -/
theorem char {depth : Nat} {c : Char} {w : Text} (hc : isBracket c = false)
    (h : Closing depth w) : Closing depth (c :: w) := by
  cases h with
  | zero hw => exact zero (hw.char hc)
  | succ hu hw => exact succ (hu.char hc) hw

/-- A balanced text between double brackets may stand in front. -/
theorem nest {depth : Nat} {u w : Text} (hu : Balanced u) (h : Closing depth w) :
    Closing depth ('(' :: '(' :: (u ++ ')' :: ')' :: w)) := by
  cases h with
  | zero hw => exact zero (hu.nest hw)
  | succ hv hw =>
    have hfront := succ (hu.nest hv) hw
    simpa using hfront

end Closing

/-- A balanced text is read over, at any depth. -/
theorem bodyAux_balanced {w : Text} (hw : Balanced w) (depth : Nat) (before t : Text) :
    bodyAux depth before (w ++ t) = bodyAux depth (w.reverse ++ before) t := by
  induction hw generalizing depth before t with
  | nil => rfl
  | @char c w hc _ ih =>
    have hopen : c ≠ '(' := by rintro rfl; cases hc
    have hclose : c ≠ ')' := by rintro rfl; cases hc
    rw [List.cons_append, bodyAux.eq_4 _ _ _ _ (by simp [hopen]) (by simp [hclose])
      (by simp [hclose]), if_neg (by simp [hc]), ih]
    simp
  | @nest u w _ _ ihu ihw =>
    rw [List.cons_append, List.cons_append, bodyAux, List.append_assoc, ihu, List.cons_append,
      List.cons_append, bodyAux, ihw]
    simp

/-- What is read behind an opening pair closes it and the pairs inside it. -/
theorem closing_of_bodyAux {depth : Nat} {before t body rest : Text}
    (h : bodyAux depth before t = some (body, rest)) :
    ∃ w, body = before.reverse ++ w ∧ Closing depth w := by
  induction depth, before, t using bodyAux.induct generalizing body rest with
  | case1 depth before t ih =>
    rw [bodyAux] at h
    obtain ⟨w, rfl, hw⟩ := ih h
    cases hw with
    | @succ _ u w hu hw =>
      refine ⟨'(' :: '(' :: (u ++ ')' :: ')' :: w), ?_, hw.nest hu⟩
      simp
  | case2 before t =>
    rw [bodyAux] at h
    simp only [Option.some.injEq, Prod.mk.injEq] at h
    exact ⟨[], by simp [h.1], .zero .nil⟩
  | case3 depth before t ih =>
    rw [bodyAux] at h
    obtain ⟨w, rfl, hw⟩ := ih h
    exact ⟨')' :: ')' :: w, by simp, .succ .nil hw⟩
  | case4 depth before c t h1 h2 h3 hc =>
    rw [bodyAux.eq_4 _ _ _ _ h1 h2 h3, if_pos hc] at h
    cases h
  | case5 depth before c t h1 h2 h3 hc ih =>
    rw [bodyAux.eq_4 _ _ _ _ h1 h2 h3, if_neg hc] at h
    obtain ⟨w, rfl, hw⟩ := ih h
    exact ⟨c :: w, by simp, hw.char (Bool.eq_false_iff.2 hc)⟩
  | case6 => simp [bodyAux] at h

/-- **Bodies.**  A body is read exactly when it is balanced and the closing
pair follows it. -/
theorem bodyAux_eq_some_iff {t body rest : Text} :
    bodyAux 0 [] t = some (body, rest) ↔ t = body ++ ')' :: ')' :: rest ∧ Balanced body := by
  constructor
  · intro h
    obtain ⟨w, hbody, hw⟩ := closing_of_bodyAux h
    have hsplit := eq_of_bodyAux h
    rw [List.reverse_nil, List.nil_append] at hbody hsplit
    cases hw with
    | zero hw => exact ⟨hsplit, hbody ▸ hw⟩
  · rintro ⟨rfl, hbody⟩
    rw [bodyAux_balanced hbody, bodyAux]
    simp

/-! ## Names -/

/-- A mark does not occur in a text in which it is not found. -/
theorem Text.not_infix_of_cut_eq_none {mark t : Text} (h : cut mark t = none) :
    ¬ mark <:+: t := by
  induction t with
  | nil =>
    intro hmark
    rw [List.infix_nil.1 hmark] at h
    cases h
  | cons c rest ih =>
    by_cases hfront : mark.isPrefixOf (c :: rest) = true
    · rw [cut_cons_of_found hfront] at h
      cases h
    · rw [cut_cons_of_later (Bool.eq_false_iff.2 hfront), Option.map_eq_none_iff] at h
      rw [List.isPrefixOf_iff_prefix] at hfront
      rw [List.infix_cons_iff]
      rintro (hstarts | hinfix)
      · exact hfront hstarts
      · exact ih h hinfix

/-- A mark does not occur in the text before its first occurrence. -/
theorem Text.not_infix_of_cut_eq_some {mark t before after : Text} (hmark : mark ≠ [])
    (h : cut mark t = some (before, after)) : ¬ mark <:+: before := by
  induction t generalizing before with
  | nil =>
    rw [cut, cutAux, if_neg (by simpa using hmark)] at h
    cases h
  | cons c rest ih =>
    by_cases hfront : mark.isPrefixOf (c :: rest) = true
    · rw [cut_cons_of_found hfront] at h
      simp only [Option.some.injEq, Prod.mk.injEq] at h
      rw [← h.1, List.infix_nil]
      exact hmark
    · rw [cut_cons_of_later (Bool.eq_false_iff.2 hfront)] at h
      obtain ⟨⟨b, a⟩, hcut, hpair⟩ := Option.map_eq_some_iff.1 h
      simp only [Prod.mk.injEq] at hpair
      obtain ⟨rfl, rfl⟩ := hpair
      rw [List.isPrefixOf_iff_prefix] at hfront
      rw [List.infix_cons_iff]
      rintro (hstarts | hinfix)
      · -- what stands before the mark is the front of the whole text
        apply hfront
        rw [eq_of_cut hcut, List.append_assoc, ← List.cons_append]
        exact hstarts.trans (List.prefix_append _ _)
      · exact ih hcut hinfix

/-- No bracket stands in a written name exactly when all of them stand behind
a separator. -/
theorem Placeholder.writtenName_any_isBracket (p : Placeholder) :
    p.writtenName.any isBracket = false ↔ BracketsBehindSeparator p.body := by
  rw [List.any_eq_false]
  cases hcut : Text.cut separator p.body with
  | none =>
    -- without a separator the whole body is the name
    have habsent := Text.not_infix_of_cut_eq_none hcut
    have hname : p.writtenName = p.body := by rw [writtenName, hcut]; rfl
    rw [hname]
    constructor
    · intro h before c after hsplit hc
      exact absurd hc (h c (by simp [hsplit]))
    · intro h c hc hbracket
      obtain ⟨before, after, hsplit⟩ := List.append_of_mem hc
      refine habsent ((h before c after hsplit hbracket).trans ?_)
      rw [hsplit]
      exact List.infix_append' [] before (c :: after)
  | some parts =>
    obtain ⟨name, shown⟩ := parts
    have habsent := Text.not_infix_of_cut_eq_some (by decide) hcut
    have hbody := Text.eq_of_cut hcut
    have hname : p.writtenName = name := by rw [writtenName, hcut]; rfl
    rw [hname]
    constructor
    · intro h before c after hsplit hc
      have hnone : ∀ d ∈ name ++ separator, isBracket d = false := by
        intro d hd
        rcases List.mem_append.1 hd with hd | hd
        · exact Bool.eq_false_iff.2 (h d hd)
        · have hseparator : separator.any isBracket = false := by decide
          exact Bool.eq_false_iff.2 (List.any_eq_false.1 hseparator d hd)
      -- the bracket is in neither the name nor the separator, so both are before it
      rcases List.append_eq_append_iff.1 (hsplit.symm.trans hbody) with
        ⟨inside, hfront, hrest⟩ | ⟨more, hbefore, -⟩
      · cases inside with
        | nil =>
          rw [List.append_nil] at hfront
          rw [← hfront]
          exact (List.suffix_append name separator).isInfix
        | cons d inside =>
          rw [List.cons_append, List.cons.injEq] at hrest
          have hd := hnone d (by simp [hfront])
          rw [← hrest.1, hc] at hd
          cases hd
      · rw [hbefore]
        exact List.infix_append name separator more
    · intro h c hc hbracket
      obtain ⟨before, after, hsplit⟩ := List.append_of_mem hc
      refine habsent ((h before c (after ++ separator ++ shown) ?_ hbracket).trans ?_)
      · simp [hbody, hsplit]
      · rw [hsplit]
        exact List.infix_append' [] before (c :: after)

/-- A body between balanced brackets is valid exactly when it is the body of a
placeholder. -/
theorem isBody_iff {body : Text} :
    IsBody body ↔ Balanced body ∧ (Placeholder.mk body).isValid = true := by
  have hvalid : (Placeholder.mk body).isValid = true
      ↔ body ≠ [] ∧ BracketsBehindSeparator body := by
    rw [Placeholder.isValid, Bool.and_eq_true, Bool.not_eq_true', Bool.not_eq_true',
      Placeholder.writtenName_any_isBracket, List.isEmpty_eq_false_iff]
  rw [hvalid]
  constructor
  · rintro ⟨hbalanced, hne, hbrackets⟩
    exact ⟨hbalanced, hne, hbrackets⟩
  · rintro ⟨hbalanced, hne, hbrackets⟩
    exact ⟨hbalanced, hne, hbrackets⟩

/-- A placeholder in front of a text, bracket by bracket. -/
theorem Placeholder.source_append (p : Placeholder) (t : Text) :
    p.source ++ t = '(' :: '(' :: (p.body ++ ')' :: ')' :: t) := by
  simp [source]

/-- **Placeholders.**  A placeholder is read off the front of a text exactly
when its body is one and stands there between double brackets. -/
theorem placeholderAt?_eq_some_iff {t rest : Text} {p : Placeholder} :
    placeholderAt? t = some (p, rest) ↔ t = p.source ++ rest ∧ IsBody p.body := by
  constructor
  · intro h
    refine ⟨eq_of_placeholderAt? h, isBody_iff.2 ⟨?_, isValid_of_placeholderAt? h⟩⟩
    -- only what was read as a body becomes a placeholder
    unfold placeholderAt? at h
    split at h
    · split at h
      · rename_i hread
        split at h
        · cases h
          exact (bodyAux_eq_some_iff.1 hread).2
        · cases h
      · cases h
    · cases h
  · rintro ⟨rfl, hbody⟩
    obtain ⟨hbalanced, hvalid⟩ := isBody_iff.1 hbody
    have hread : bodyAux 0 [] (p.body ++ ')' :: ')' :: rest) = some (p.body, rest) :=
      bodyAux_eq_some_iff.2 ⟨rfl, hbalanced⟩
    rw [p.source_append, placeholderAt?, hread]
    exact if_pos hvalid

/-! ## Readings of a template -/

/-- A text that starts with a placeholder. -/
def StartsPlaceholder (t : Text) : Prop :=
  ∃ p : Placeholder, ∃ rest, t = p.source ++ rest ∧ IsBody p.body

/-- The readings of a template from left to right.  Behind a placeholder the
reading goes on where its source ends.  Literal text goes on up to the end or
the next placeholder, and no placeholder starts at any of its characters. -/
inductive Reading : Text → List Segment → Prop
  | done : Reading [] []
  | placeholder {p : Placeholder} {rest : Text} {l : List Segment} : IsBody p.body →
      Reading rest l → Reading (p.source ++ rest) (.placeholder p :: l)
  | text {literal rest : Text} {l : List Segment} : literal ≠ [] →
      (∀ before after, literal = before ++ after → after ≠ [] →
        ¬ StartsPlaceholder (after ++ rest)) →
      (rest = [] ∨ StartsPlaceholder rest) →
      Reading rest l → Reading (literal ++ rest) (.text literal :: l)

/-- A placeholder is read exactly where one starts. -/
theorem placeholderAt?_eq_none_iff {t : Text} :
    placeholderAt? t = none ↔ ¬ StartsPlaceholder t := by
  constructor
  · rintro hnone ⟨p, rest, hp⟩
    rw [placeholderAt?_eq_some_iff.2 hp] at hnone
    cases hnone
  · intro habsent
    cases hread : placeholderAt? t with
    | none => rfl
    | some found => exact absurd ⟨found.1, found.2, placeholderAt?_eq_some_iff.1 hread⟩ habsent

/-- Segments read before stay in front. -/
theorem segmentsAux_eq (literal : Text) (done : List Segment) (t : Text) :
    segmentsAux literal done t = done.reverse ++ segmentsAux literal [] t := by
  have move : ∀ (literal : Text) (done : List Segment) (t : Text) (more : List Segment),
      segmentsAux literal (done ++ more) t = more.reverse ++ segmentsAux literal done t := by
    intro literal done t
    induction literal, done, t using segmentsAux.induct with
    | case1 literal done =>
      intro more
      rw [segmentsAux, segmentsAux]
      simp [List.reverseAux_eq]
    | case2 literal done c rest p after hp ih =>
      intro more
      rw [segmentsAux, segmentsAux, hp]
      simpa [List.reverseAux_eq] using ih more
    | case3 literal done c rest hp ih =>
      intro more
      rw [segmentsAux, segmentsAux, hp]
      exact ih more
  simpa using move literal [] t done

/-- No placeholder starts at any character of a word in front of a text, so
the word is literal. -/
theorem segmentsAux_literal {word rest : Text}
    (h : ∀ before after, word = before ++ after → after ≠ [] →
      ¬ StartsPlaceholder (after ++ rest)) (literal : Text) :
    segmentsAux literal [] (word ++ rest) = segmentsAux (word.reverse ++ literal) [] rest := by
  induction word generalizing literal with
  | nil => rfl
  | cons c word ih =>
    have hfront := placeholderAt?_eq_none_iff.2 (h [] (c :: word) rfl (List.cons_ne_nil c word))
    rw [List.cons_append] at hfront ⊢
    rw [segmentsAux, hfront]
    have hrest : ∀ before after, word = before ++ after → after ≠ [] →
        ¬ StartsPlaceholder (after ++ rest) := by
      intro before after hsplit
      exact h (c :: before) after (by rw [hsplit, List.cons_append])
    simpa using ih hrest (c :: literal)

/-- Literal text ends where a placeholder starts. -/
theorem segmentsAux_placeholder {p : Placeholder} (hp : IsBody p.body) (literal rest : Text) :
    segmentsAux literal [] (p.source ++ rest)
      = literalSegment literal ++ .placeholder p :: segments rest := by
  have hread : placeholderAt? (p.source ++ rest) = some (p, rest) :=
    placeholderAt?_eq_some_iff.2 ⟨rfl, hp⟩
  rw [p.source_append] at hread ⊢
  rw [segmentsAux, hread]
  simp only
  rw [segmentsAux_eq]
  simp [segments, List.reverseAux_eq]

/-- At the end of a text, or where a placeholder starts, the literal text read
so far is complete. -/
theorem segmentsAux_end {rest : Text} (h : rest = [] ∨ StartsPlaceholder rest) (literal : Text) :
    segmentsAux literal [] rest = literalSegment literal ++ segments rest := by
  rcases h with rfl | ⟨p, rest, rfl, hp⟩
  · rw [segments, segmentsAux, segmentsAux]
    simp [literalSegment]
  · rw [segments, segmentsAux_placeholder hp, segmentsAux_placeholder hp]
    rfl

/-- Every reading is the one that is found. -/
theorem segments_of_reading {t : Text} {l : List Segment} (h : Reading t l) : segments t = l := by
  induction h with
  | done =>
    rw [segments, segmentsAux]
    rfl
  | placeholder hp _ ih =>
    rw [segments, segmentsAux_placeholder hp, ih]
    rfl
  | @text literal rest l hne hfinal hend _ ih =>
    have hsegment : literalSegment literal.reverse = [.text literal] := by
      simp [literalSegment, hne]
    rw [segments, segmentsAux_literal hfinal, segmentsAux_end hend, List.append_nil, hsegment, ih]
    rfl

/-- Every text starts with literal text, perhaps empty, behind which it ends or
a placeholder starts. -/
theorem exists_literal (t : Text) :
    ∃ literal rest, t = literal ++ rest ∧ (rest = [] ∨ StartsPlaceholder rest) ∧
      ∀ before after, literal = before ++ after → after ≠ [] →
        ¬ StartsPlaceholder (after ++ rest) := by
  induction t with
  | nil =>
    refine ⟨[], [], rfl, Or.inl rfl, ?_⟩
    intro before after hsplit hne
    exact absurd (List.append_eq_nil_iff.1 hsplit.symm).2 hne
  | cons c t ih =>
    by_cases hstart : StartsPlaceholder (c :: t)
    · refine ⟨[], c :: t, rfl, Or.inr hstart, ?_⟩
      intro before after hsplit hne
      exact absurd (List.append_eq_nil_iff.1 hsplit.symm).2 hne
    · obtain ⟨literal, rest, rfl, hend, hfinal⟩ := ih
      refine ⟨c :: literal, rest, rfl, hend, ?_⟩
      intro before after hsplit hne
      rcases List.cons_eq_append_iff.1 hsplit with ⟨-, rfl⟩ | ⟨before, -, hliteral⟩
      · exact hstart
      · exact hfinal before after hliteral hne

/-- Every template has a reading. -/
theorem exists_reading (t : Text) : ∃ l, Reading t l := by
  induction hn : t.length using Nat.strong_induction_on generalizing t with
  | _ n ih =>
    obtain ⟨literal, rest, rfl, hend, hfinal⟩ := exists_literal t
    have hrest : ∃ l, Reading rest l := by
      rcases hend with rfl | ⟨p, rest, rfl, hp⟩
      · exact ⟨[], .done⟩
      · have hshorter : rest.length < n := by
          rw [← hn]
          simp only [List.length_append, Placeholder.source, List.cons_append, List.length_cons]
          omega
        obtain ⟨l, hl⟩ := ih rest.length hshorter rest rfl
        exact ⟨.placeholder p :: l, .placeholder hp hl⟩
    obtain ⟨l, hl⟩ := hrest
    by_cases hne : literal = []
    · rw [hne]
      exact ⟨l, hl⟩
    · exact ⟨.text literal :: l, .text hne hfinal hend hl⟩

/-- The segments of a template are a reading of it. -/
theorem reading_segments (t : Text) : Reading t (segments t) := by
  obtain ⟨l, hl⟩ := exists_reading t
  rw [segments_of_reading hl]
  exact hl

/-- **Segments.**  The segments of a template are its only reading. -/
theorem segments_eq_iff {t : Text} {l : List Segment} : segments t = l ↔ Reading t l := by
  constructor
  · rintro rfl
    exact reading_segments t
  · exact segments_of_reading

/-- **The reader accepts the grammar.**  A placeholder is read where its source
stands with a body of the grammar, and nowhere else; a text starts with one
placeholder at most; and the segments of a template are its one reading from
left to right. -/
theorem reader_accepts_grammar :
    (∀ (t : Text) (p : Placeholder) (rest : Text),
      placeholderAt? t = some (p, rest) ↔ t = p.source ++ rest ∧ IsBody p.body)
    ∧ (∀ t : Text, {read : Placeholder × Text |
        t = read.1.source ++ read.2 ∧ IsBody read.1.body}.Subsingleton)
    ∧ ∀ (t : Text) (l : List Segment), segments t = l ↔ Reading t l := by
  refine ⟨fun _ _ _ => placeholderAt?_eq_some_iff, ?_, fun _ _ => segments_eq_iff⟩
  rintro t ⟨p, rest⟩ hp ⟨p', rest'⟩ hp'
  have hread := placeholderAt?_eq_some_iff.2 hp
  rw [placeholderAt?_eq_some_iff.2 hp'] at hread
  cases hread
  rfl

end MessageTemplate

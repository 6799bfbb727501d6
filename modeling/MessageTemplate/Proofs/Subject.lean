/-
# Subjects

The subject of an HTML email is written in markup before its quotes are
curled, that of the plain text as it stands.  In markup an angle bracket is an
entity, which ends no token and opens no quotation (`smartenQuotes_escape`), so
the two agree on a quote only if no angle bracket decides about it
(`escapedQuoteAt_eq_iff`).  All else that is done to a subject commutes with
writing it in markup, and `Message.subjects_agree_iff` says when the two
subjects are the same.
-/
import Mathlib
import MessageTemplate.Message.Basic
import MessageTemplate.Proofs.Body
import MessageTemplate.Proofs.Markup
import MessageTemplate.Proofs.Quotes
import MessageTemplate.Proofs.Respelling

namespace MessageTemplate

/-! ## Tokens in markup -/

/-- A map of characters to words may be applied before or after the front of a
text is taken, if a word is taken whole or not at all. -/
theorem takeWhile_flatMap {p q : Char → Bool} {g : Char → Text}
    (htake : ∀ c, p c = true → ∀ d ∈ g c, q d = true)
    (hstop : ∀ c, p c = false → ∃ d rest, g c = d :: rest ∧ q d = false) (t : Text) :
    (t.flatMap g).takeWhile q = (t.takeWhile p).flatMap g := by
  induction t with
  | nil => rfl
  | cons c t ih =>
    rw [List.flatMap_cons]
    cases hc : p c with
    | true =>
      rw [List.takeWhile_append_of_pos (htake c hc), ih, List.takeWhile_cons_of_pos hc,
        List.flatMap_cons]
    | false =>
      obtain ⟨d, rest, hg, hd⟩ := hstop c hc
      rw [hg, List.cons_append, List.takeWhile_cons_of_neg (by simp [hd]),
        List.takeWhile_cons_of_neg (by simp [hc]), List.flatMap_nil]

/-- No character of an entity ends a token, unless it is a blank. -/
theorem endsToken_of_mem_entity {c d : Char} (hc : isBlank c = false) (hd : d ∈ Html.entity c) :
    endsToken d = false := by
  have hplain := isAngle_eq_false_iff.1 (isPlain_entity c d hd)
  have hblank : isBlank d = false := Html.eq_false_of_mem_entity (by decide) hc hd
  simp [endsToken, hblank, hplain]

/-- A blank is written as it is, and ends a token. -/
theorem entity_of_isBlank {c : Char} (hc : isBlank c = true) :
    Html.entity c = [c] ∧ endsToken c = true := by
  refine ⟨Html.keepsSpacing_entity.spacing c ?_, ?_⟩
  · rw [isSpacing, hc, Bool.true_or]
  · rw [endsToken, hc, Bool.true_or, Bool.true_or]

/-- In markup only blanks end a token. -/
theorem tokenAround_escape (before after : Text) :
    tokenAround endsToken (Html.escape before.reverse).reverse (Html.escape after)
      = Html.escape (tokenAround isBlank before after) := by
  have htake : ∀ c, (!isBlank c) = true → ∀ d ∈ Html.entity c, (!endsToken d) = true := by
    intro c hc d hd
    rw [endsToken_of_mem_entity (by simpa using hc) hd]
    rfl
  have hstop : ∀ c, (!isBlank c) = false → Html.entity c = [c] ∧ (!endsToken c) = false := by
    intro c hc
    obtain ⟨hself, hends⟩ := entity_of_isBlank (c := c) (by simpa using hc)
    exact ⟨hself, by rw [hends]; rfl⟩
  have hafter : (Html.escape after).takeWhile (fun c => !endsToken c)
      = Html.escape (after.takeWhile fun c => !isBlank c) := by
    apply takeWhile_flatMap htake
    intro c hc
    exact ⟨c, [], (hstop c hc).1, (hstop c hc).2⟩
  -- the token is read backwards in front of the place, and so are the entities in it
  have hbefore : (Html.escape before.reverse).reverse.takeWhile (fun c => !endsToken c)
      = (Html.escape (before.takeWhile fun c => !isBlank c).reverse).reverse := by
    unfold Html.escape
    rw [List.reverse_flatMap, List.reverse_flatMap, List.reverse_reverse, List.reverse_reverse]
    apply takeWhile_flatMap
    · intro c hc d hd
      exact htake c hc d (List.mem_reverse.1 hd)
    · intro c hc
      refine ⟨c, [], ?_, (hstop c hc).2⟩
      rw [Function.comp_apply, (hstop c hc).1]
      rfl
  rw [tokenAround, tokenAround, hafter, hbefore, List.reverse_reverse, Html.escape_append]

/-- An at sign stands in no entity but its own, where it is alone. -/
theorem entity_at (c : Char) : Html.entity c = [c] ∨ c ≠ '@' ∧ '@' ∉ Html.entity c := by
  rcases Html.entity_eq_or c with hself | hmarkup
  · exact Or.inl hself
  · right
    have hnone : '@' ∉ c :: Html.entity c := fun hmem => absurd (hmarkup hmem) (by decide)
    rw [List.mem_cons, not_or] at hnone
    exact ⟨Ne.symm hnone.1, hnone.2⟩

/-- Up to its last character a text has an at sign in markup if it has one. -/
theorem mem_dropLast_escape (w : Text) : '@' ∈ (Html.escape w).dropLast ↔ '@' ∈ w.dropLast := by
  induction w with
  | nil => rfl
  | cons c w ih =>
    rw [Html.escape_cons]
    by_cases hw : w = []
    · -- of the only character at most the front of its entity is left
      refine iff_of_false ?_ (by simp [hw])
      rw [hw, Html.escape_nil, List.append_nil]
      intro hmem
      rcases entity_at c with hself | ⟨-, hnone⟩
      · rw [hself] at hmem
        cases hmem
      · exact hnone (List.mem_of_mem_dropLast hmem)
    · have hne : Html.escape w ≠ [] := fun hnil => hw (Html.escape_injective hnil)
      have hfirst : '@' ∈ Html.entity c ↔ '@' = c := by
        rcases entity_at c with hself | ⟨hc, hnone⟩
        · rw [hself, List.mem_singleton]
        · exact iff_of_false hnone (Ne.symm hc)
      rw [List.dropLast_append_of_ne_nil hne, List.dropLast_cons_of_ne_nil hw, List.mem_append,
        List.mem_cons, hfirst, ih]

/-- An email token is one in markup. -/
theorem isEmailToken_escape (w : Text) : isEmailToken (Html.escape w) = isEmailToken w := by
  cases w with
  | nil => rfl
  | cons c w =>
    obtain ⟨d, rest, hentity⟩ := List.exists_cons_of_ne_nil (Html.entity_ne_nil c)
    have hrest : '@' ∉ rest := by
      intro hmem
      rcases entity_at c with hself | ⟨-, hnone⟩
      · rw [hentity, List.cons.injEq] at hself
        rw [hself.2] at hmem
        cases hmem
      · rw [hentity] at hnone
        exact hnone (List.mem_cons_of_mem d hmem)
    rw [Bool.eq_iff_iff, Html.escape_cons, hentity, isEmailToken, isEmailToken,
      List.contains_iff_mem, List.contains_iff_mem]
    show '@' ∈ (rest ++ Html.escape w).dropLast ↔ '@' ∈ w.dropLast
    refine Iff.trans ?_ (mem_dropLast_escape w)
    by_cases hnil : Html.escape w = []
    · rw [hnil, List.append_nil]
      exact iff_of_false (fun hmem => hrest (List.mem_of_mem_dropLast hmem)) List.not_mem_nil
    · rw [List.dropLast_append_of_ne_nil hnil, List.mem_append, or_iff_right hrest]

/-! ## Quotes in markup -/

/-- A character in its place as it is in markup: blanks alone end a token, and
in front of the character stands the last one of an entity. -/
def escapedQuoteAt (before : Text) (c : Char) (after : Text) : Char :=
  if isEmailToken (tokenAround isBlank before (c :: after)) then c
  else curlQuote (before.head?.bind fun b => (Html.entity b).getLast?) c

/-- Characters that are no quotes stay as they are in their places. -/
theorem writeInPlace_quoteAt_append {w : Text} (hw : ∀ c ∈ w, isStraightQuote c = false)
    (before t : Text) :
    writeInPlace quoteAt before (w ++ t) = w ++ writeInPlace quoteAt (w.reverse ++ before) t := by
  induction w generalizing before with
  | nil => rfl
  | cons c w ih =>
    have hc : quoteAt before c (w ++ t) = c := by
      rw [quoteAt, curlQuote_of_not_quote (hw c List.mem_cons_self), ite_self]
    rw [List.cons_append, writeInPlace, hc, ih fun d hd => hw d (List.mem_cons_of_mem c hd)]
    simp

/-- In front of a place in markup stands the last character of an entity. -/
theorem head?_escape (before : Text) :
    (Html.escape before.reverse).reverse.head?
      = before.head?.bind fun b => (Html.entity b).getLast? := by
  cases before with
  | nil => rfl
  | cons b before =>
    rw [List.head?_reverse, List.reverse_cons, Html.escape_append, List.head?_cons,
      Option.bind_some, Html.escape_cons, Html.escape_nil, List.append_nil]
    exact List.getLast?_append_of_ne_nil _ (Html.entity_ne_nil b)

/-- A straight quote in its place is a quote by either rule. -/
theorem mem_quotes_at {c : Char} (hc : isStraightQuote c = true) (before after : Text) :
    escapedQuoteAt before c after ∈ quotes ∧ quoteAt before c after ∈ quotes := by
  obtain ⟨hself, hcurled⟩ := mem_quotes_of_isStraightQuote hc
  unfold escapedQuoteAt quoteAt
  constructor
  · split
    · exact hself
    · exact hcurled _
  · split
    · exact hself
    · exact hcurled _

/-- Quotes are written as they are in markup. -/
theorem entity_of_mem_quotes {c : Char} (hc : c ∈ quotes) : Html.entity c = [c] := by
  apply Html.entity_of_ne
  all_goals
    rintro rfl
    exact absurd hc (by decide)

/-- A straight quote is in its place in markup what the rule for markup says. -/
theorem quoteAt_escape {c : Char} (hc : isStraightQuote c = true) (before after : Text) :
    quoteAt (Html.escape before.reverse).reverse c (Html.escape after)
      = escapedQuoteAt before c after := by
  have hself := entity_of_mem_quotes (mem_quotes_of_isStraightQuote hc).1
  have htoken := tokenAround_escape before (c :: after)
  rw [Html.escape_cons, hself, List.singleton_append] at htoken
  rw [quoteAt, escapedQuoteAt, htoken, isEmailToken_escape, head?_escape]

/-- **Quotes.**  Curling quotes in markup is writing in markup what each
character is in its place there. -/
theorem smartenQuotes_escape (t : Text) :
    smartenQuotes true (Html.escape t) = Html.escape (writeInPlace escapedQuoteAt [] t) := by
  have held : ∀ before, writeInPlace quoteAt (Html.escape before.reverse).reverse (Html.escape t)
      = Html.escape (writeInPlace escapedQuoteAt before t) := by
    induction t with
    | nil => exact fun _ => rfl
    | cons c t ih =>
      intro before
      have hrest := ih (c :: before)
      rw [List.reverse_cons, Html.escape_append, Html.escape_cons, Html.escape_nil, List.append_nil,
        List.reverse_append] at hrest
      rw [writeInPlace, Html.escape_cons, Html.escape_cons]
      cases hc : isStraightQuote c with
      | true =>
        have hself := entity_of_mem_quotes (mem_quotes_of_isStraightQuote hc).1
        have hcurled := entity_of_mem_quotes (mem_quotes_at hc before t).1
        rw [hself] at hrest
        rw [hself, hcurled, List.singleton_append, writeInPlace, quoteAt_escape hc, ← hrest]
        rfl
      | false =>
        have hentity : ∀ d ∈ Html.entity c, isStraightQuote d = false := by
          intro d hd
          exact Html.eq_false_of_mem_entity (by decide) hc hd
        have hplace : escapedQuoteAt before c t = c := by
          rw [escapedQuoteAt, curlQuote_of_not_quote hc, ite_self]
        rw [writeInPlace_quoteAt_append hentity, hrest, hplace]
  have hplain : '<' ∉ Html.escape t := by
    intro hmem
    exact absurd (isPlain_escape t _ hmem) (by decide)
  rw [smartenQuotes_eq fun _ => hplain]
  exact held []

/-! ## Where the two decisions agree -/

/-- A character opens a quotation in markup if it does as it is, but for `>`. -/
theorem opensQuote_entity (previous : Option Char) :
    opensQuote (previous.bind fun b => (Html.entity b).getLast?) = opensQuote previous
      ↔ previous ≠ some '>' := by
  cases previous with
  | none => simp
  | some b =>
    rw [Option.bind_some]
    by_cases hamp : b = '&'
    · subst hamp
      decide
    by_cases hlt : b = '<'
    · subst hlt
      decide
    by_cases hgt : b = '>'
    · subst hgt
      decide
    rw [Html.entity_of_ne hamp hlt hgt, List.getLast?_singleton]
    simpa using hgt

/-- More characters belong to a token that only blanks end. -/
theorem isEmailToken_tokenAround {before after : Text}
    (h : isEmailToken (tokenAround endsToken before after) = true) :
    isEmailToken (tokenAround isBlank before after) = true := by
  have hends : ∀ t : Text, ∃ rest,
      (t.takeWhile fun c => !isBlank c) = (t.takeWhile fun c => !endsToken c) ++ rest := by
    intro t
    induction t with
    | nil => exact ⟨[], rfl⟩
    | cons c t ih =>
      cases hc : endsToken c with
      | true =>
        have hnil : ((c :: t).takeWhile fun c => !endsToken c) = [] :=
          List.takeWhile_cons_of_neg (by simp [hc])
        rw [hnil]
        exact ⟨_, rfl⟩
      | false =>
        have hblank : isBlank c = false := by
          rw [endsToken, Bool.or_eq_false_iff, Bool.or_eq_false_iff] at hc
          exact hc.1.1
        obtain ⟨rest, hrest⟩ := ih
        refine ⟨rest, ?_⟩
        rw [List.takeWhile_cons_of_pos (by simp [hblank]),
          List.takeWhile_cons_of_pos (by simp [hc]), hrest, List.cons_append]
  obtain ⟨front, hbefore⟩ := hends before
  obtain ⟨rest, hafter⟩ := hends after
  have htoken : tokenAround isBlank before after
      = front.reverse ++ tokenAround endsToken before after ++ rest := by
    rw [tokenAround, tokenAround, hbefore, hafter, List.reverse_append]
    simp only [List.append_assoc]
  rw [htoken]
  exact isEmailToken_append h front.reverse rest

/-- **Decisions.**  A character is the same in its place in markup and in plain
text, exactly if it is no quote, or lies in an email token, or no angle bracket
makes it part of one or opens a quotation in front of it. -/
theorem escapedQuoteAt_eq_iff {before after : Text} {c : Char} :
    escapedQuoteAt before c after = quoteAt before c after
      ↔ (isStraightQuote c = true →
        isEmailToken (tokenAround endsToken before (c :: after)) = true
          ∨ isEmailToken (tokenAround isBlank before (c :: after)) = false
            ∧ before.head? ≠ some '>') := by
  rw [escapedQuoteAt, quoteAt]
  cases hc : isStraightQuote c with
  | false =>
    rw [curlQuote_of_not_quote hc, curlQuote_of_not_quote hc, ite_self, ite_self]
    simp
  | true =>
    cases hplain : isEmailToken (tokenAround endsToken before (c :: after)) with
    | true => simp [isEmailToken_tokenAround hplain]
    | false =>
      cases hmarkup : isEmailToken (tokenAround isBlank before (c :: after)) with
      | true =>
        -- an angle bracket ends the token in plain text alone, where the quote is curled
        simp [Ne.symm (curlQuote_ne hc before.head?)]
      | false =>
        have hways : curlQuote (before.head?.bind fun b => (Html.entity b).getLast?) c
            = curlQuote before.head? c ↔ before.head? ≠ some '>' := by
          rw [curlQuote_eq_iff hc, opensQuote_entity]
        simpa using hways

/-! ## Dashes in markup -/

/-- An entity that is not the character itself is a word, and so is the character. -/
theorem isWord_entity (c : Char) :
    Html.entity c = [c] ∨ IsWord (Html.entity c) ∧ IsWord [c] := by
  by_cases hamp : c = '&'
  · subst hamp
    exact Or.inr (by decide)
  by_cases hlt : c = '<'
  · subst hlt
    exact Or.inr (by decide)
  by_cases hgt : c = '>'
  · subst hgt
    exact Or.inr (by decide)
  exact Or.inl (Html.entity_of_ne hamp hlt hgt)

/-- **Dashes.**  They may be replaced before a text is written in markup or after. -/
theorem replaceSpacedHyphens_escape (t : Text) :
    replaceSpacedHyphens (Html.escape t) = Html.escape (replaceSpacedHyphens t) := by
  -- only blanks and dashes are held back, and these are written as they are
  let ok : DashState → Prop := fun s => ∀ d ∈ s.held, Html.entity d = [d]
  have hkept : ∀ w : Text, (∀ d ∈ w, Html.entity d = [d]) → w.flatMap Html.entity = w := by
    intro w hw
    rw [List.flatMap_congr hw, List.flatMap_singleton']
  refine Transducer.runFrom_flatMap ok ?_ ?_ (fun d hd => absurd hd List.not_mem_nil) t
  · intro s hs
    rw [dashPass_finish]
    exact hkept _ hs
  · intro s hs c
    rcases isWord_entity c with hself | ⟨hentity, hc⟩
    · have hall : ∀ d ∈ (dashPass.step s c).2 ++ (dashPass.step s c).1.held,
          Html.entity d = [d] := by
        intro d hd
        rcases mem_dashPass_step hd with hd | rfl | rfl | rfl
        · exact hs d hd
        · exact hself
        · decide
        · decide
      refine ⟨fun t => ?_, fun d hd => hall d (List.mem_append_right _ hd)⟩
      rw [hself, List.singleton_append, Transducer.runFrom_cons,
        hkept _ fun d hd => hall d (List.mem_append_left _ hd)]
    · have hstep : dashPass.step s c = (.text, s.held ++ [c]) := by
        apply dashPass_step_of_plain
        · exact isSpaceOrTab_of_isBlank (isSpacing_eq_false_iff.1
            (hc.unspaced c List.mem_cons_self)).1
        · simpa using hc.head
      refine ⟨fun t => ?_, ?_⟩
      · rw [dashPass_passesPhrases _ (.word hentity), hstep, List.flatMap_append, hkept _ hs,
          List.flatMap_singleton]
      · rw [hstep]
        exact fun d hd => absurd hd List.not_mem_nil

/-! ## Telling quotes apart -/

/-- A quote as a text. -/
def IsQuote (w : Text) : Prop :=
  ∃ c ∈ quotes, w = [c]

theorem IsQuote.phrase {w : Text} (hw : IsQuote w) : Phrase w := by
  obtain ⟨c, hc, rfl⟩ := hw
  have hspacing : quotes.any isSpacing = false := by decide
  have hdash : quotes.any isDash = false := by decide
  refine .word ⟨List.cons_ne_nil c [], ?_, ?_⟩
  · rw [List.forall_mem_singleton]
    exact Bool.eq_false_iff.2 (List.any_eq_false.1 hspacing c hc)
  · exact Bool.eq_false_iff.2 (List.any_eq_false.1 hdash c hc)

/-- A pass that leaves phrases alone tells texts apart that differ in their quotes. -/
theorem Respelled.eq_of_runFrom {σ : Type} {m : Transducer σ Char Char} {held : σ → Text}
    {clear : σ} (hm : PassesPhrases m held clear) {t u : Text} (h : Respelled IsQuote t u) {s : σ}
    (hrun : m.runFrom s t = m.runFrom s u) : t = u := by
  induction h generalizing s with
  | nil => rfl
  | char c _ ih =>
    rw [Transducer.runFrom_cons, Transducer.runFrom_cons, List.append_cancel_left_eq] at hrun
    rw [ih hrun]
  | @word v w t u hv hw _ ih =>
    rw [hm v hv.phrase, hm w hw.phrase, List.append_assoc, List.append_assoc,
      List.append_cancel_left_eq] at hrun
    obtain ⟨c, -, rfl⟩ := hv
    obtain ⟨d, -, rfl⟩ := hw
    rw [List.singleton_append, List.singleton_append, List.cons.injEq] at hrun
    rw [hrun.1, ih hrun.2]

/-- The two rules give texts that differ in the spelling of quotes. -/
theorem respelled_writeInPlace (before t : Text) :
    Respelled IsQuote (writeInPlace escapedQuoteAt before t) (writeInPlace quoteAt before t) := by
  induction t generalizing before with
  | nil => exact .nil
  | cons c t ih =>
    rw [writeInPlace, writeInPlace]
    cases hc : isStraightQuote c with
    | true =>
      obtain ⟨hescaped, hplain⟩ := mem_quotes_at hc before t
      exact .word ⟨_, hescaped, rfl⟩ ⟨_, hplain, rfl⟩ (ih _)
    | false =>
      have hsame : escapedQuoteAt before c t = quoteAt before c t :=
        escapedQuoteAt_eq_iff.2 fun h => by rw [hc] at h; cases h
      rw [hsame]
      exact .char _ (ih _)

/-- What is done to a text behind its quotes tells the quotes apart. -/
theorem normaliseWhitespace_replaceSpacedHyphens_eq_iff {t u : Text} (h : Respelled IsQuote t u) :
    normaliseWhitespace (replaceSpacedHyphens t) = normaliseWhitespace (replaceSpacedHyphens u)
      ↔ t = u := by
  constructor
  · intro hspaced
    have hdashes : Respelled IsQuote (replaceSpacedHyphens t) (replaceSpacedHyphens u) :=
      h.runFrom dashPass_passesPhrases (fun _ hw => hw.phrase) _
    have hdashed : replaceSpacedHyphens t = replaceSpacedHyphens u :=
      hdashes.eq_of_runFrom isGapPass_wordPass.passesPhrases hspaced
    exact h.eq_of_runFrom dashPass_passesPhrases hdashed
  · rintro rfl
    rfl

/-! ## Subjects -/

namespace Draft

variable (d : Draft)

/-- How a subject is written in plain text. -/
def subjectSubstitution : Substitution where
  html := .passthrough
  style := .plain
  redactMissing := d.options.redactMissing

/-- The subject with its placeholders replaced, as the plain text has it. -/
def personalisedSubject : Text :=
  d.subjectSubstitution.render d.values d.rawSubject

/-- With its placeholders replaced, the subject of the HTML email is that of
the plain text, written in markup. -/
theorem render_subject_escape :
    { d.subjectSubstitution with html := .escape }.render d.values d.rawSubject
      = Html.escape d.personalisedSubject :=
  Substitution.render_plain_escape rfl rfl rfl rfl rfl rfl

/-- The subject of the plain text. -/
theorem plainSubject_eq :
    d.subject .passthrough .plain
      = normaliseWhitespace
          (replaceSpacedHyphens (writeInPlace quoteAt [] d.personalisedSubject)) := by
  show normaliseWhitespace (replaceSpacedHyphens (smartenQuotes false d.personalisedSubject)) = _
  rw [smartenQuotes_eq fun h => by cases h]

/-- The subject of the HTML email, read back from markup. -/
theorem unescape_htmlSubject :
    Html.unescape d.htmlSubject
      = normaliseWhitespace
          (replaceSpacedHyphens (writeInPlace escapedQuoteAt [] d.personalisedSubject)) := by
  show Html.unescape (normaliseWhitespace (replaceSpacedHyphens (smartenQuotes true
    ({ d.subjectSubstitution with html := .escape }.render d.values d.rawSubject)))) = _
  rw [render_subject_escape, smartenQuotes_escape, replaceSpacedHyphens_escape,
    normaliseWhitespace_escape, Html.unescape_escape]

end Draft

namespace Message

/-- **Subjects.**  The HTML email and the plain text always have a subject, and
have the same one exactly if no angle bracket decides about a quote in it: each
straight quote lies in an email token of the plain text, or lies in none even
if only blanks end a token, and does not stand behind `>`. -/
theorem subjects_agree_iff (d : Draft) :
    ∃ html plain, (Message.mk .htmlEmail d).subject? = some html
      ∧ (Message.mk .plainTextEmail d).subject? = some plain
      ∧ (Html.unescape html = plain ↔
        ∀ before c after, d.personalisedSubject = before ++ c :: after → isStraightQuote c = true →
          isEmailToken (tokenAround endsToken before.reverse (c :: after)) = true
            ∨ isEmailToken (tokenAround isBlank before.reverse (c :: after)) = false
              ∧ before.getLast? ≠ some '>') := by
  refine ⟨d.htmlSubject, d.subject .passthrough .plain, rfl, rfl, ?_⟩
  rw [d.unescape_htmlSubject, d.plainSubject_eq,
    normaliseWhitespace_replaceSpacedHyphens_eq_iff (respelled_writeInPlace [] _),
    writeInPlace_eq_iff]
  simp only [List.append_nil, escapedQuoteAt_eq_iff, List.head?_reverse]

/-- Behind an angle bracket a quotation is opened in the plain text and closed
in the HTML email. -/
theorem quotes_differ_behind_bracket :
    let d : Draft := ⟨⟨['x'], some "a>'b'".toList, .email⟩, {}, .empty⟩
    (Message.mk .htmlEmail d).subject? = some "a&gt;’b’".toList
      ∧ (Message.mk .plainTextEmail d).subject? = some "a>‘b’".toList
      ∧ Html.unescape "a&gt;’b’".toList ≠ "a>‘b’".toList := by
  intro d
  have hhtml : d.htmlSubject = "a&gt;’b’".toList := by cbv
  have hplain : d.subject .passthrough .plain = "a>‘b’".toList := by cbv
  refine ⟨congrArg some hhtml, congrArg some hplain, ?_⟩
  decide

end Message

end MessageTemplate

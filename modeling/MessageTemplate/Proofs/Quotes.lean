/-
# Quotes in their place

Whether a straight quote is curled, and which way, is told by what stands
around it: the token that it lies in, the markup that it lies in and the last
character outside markup in front of it.  `markEmails_eq` says of each character
which token it is marked with, and `smartenQuotes_eq_writeInPlace` what is
written for it.  In a text without markup that is told by the token and the
character in front (`smartenQuotes_eq`).
-/
import Mathlib
import MessageTemplate.Text.Typography

namespace MessageTemplate

/-! ## Characters in their place -/

section Place

variable {β : Type} {f g : Text → Char → Text → β}

/-- What is written for a text where each character is told by what stands
before it, latest first, and after it. -/
def writeInPlace (f : Text → Char → Text → β) : Text → Text → List β
  | _, [] => []
  | before, c :: after => f before c after :: writeInPlace f (c :: before) after

/-- One letter is written for each character. -/
theorem length_writeInPlace (before t : Text) : (writeInPlace f before t).length = t.length := by
  induction t generalizing before with
  | nil => rfl
  | cons c t ih => rw [writeInPlace, List.length_cons, List.length_cons, ih]

/-- What is written at a place is told by the texts around it. -/
theorem getElem?_writeInPlace (before front : Text) (c : Char) (after : Text) :
    (writeInPlace f before (front ++ c :: after))[front.length]?
      = some (f (front.reverse ++ before) c after) := by
  induction front generalizing before with
  | nil => rfl
  | cons d front ih =>
    rw [List.cons_append, writeInPlace, List.length_cons, List.getElem?_cons_succ, ih,
      List.reverse_cons, List.append_assoc, List.singleton_append]

/-- The same is written twice exactly if the same is written at each place. -/
theorem writeInPlace_eq_iff {before t : Text} :
    writeInPlace f before t = writeInPlace g before t
      ↔ ∀ front c after, t = front ++ c :: after →
        f (front.reverse ++ before) c after = g (front.reverse ++ before) c after := by
  induction t generalizing before with
  | nil =>
    refine iff_of_true rfl ?_
    intro front c after h
    simp at h
  | cons d t ih =>
    rw [writeInPlace, writeInPlace, List.cons.injEq, ih]
    constructor
    · rintro ⟨hfirst, hrest⟩ front c after h
      cases front with
      | nil =>
        cases h
        exact hfirst
      | cons d' front =>
        cases h
        rw [List.reverse_cons, List.append_assoc]
        exact hrest front c after rfl
    · intro h
      refine ⟨h [] d t rfl, ?_⟩
      rintro front c after rfl
      have hlater := h (d :: front) c after rfl
      rwa [List.reverse_cons, List.append_assoc] at hlater

end Place

/-! ## Tokens -/

/-- The token around a place in a text: the characters before it, latest
first, and after it up to the next that ends a token. -/
def tokenAround (ends : Char → Bool) (before after : Text) : Text :=
  (before.takeWhile fun c => !ends c).reverse ++ after.takeWhile fun c => !ends c

/-- A token is an email token exactly if an at sign in it has something on
either side. -/
theorem isEmailToken_iff {token : Text} :
    isEmailToken token = true ↔ ∃ a b, a ≠ [] ∧ b ≠ [] ∧ token = a ++ '@' :: b := by
  rw [isEmailToken, List.contains_iff_mem]
  constructor
  · intro h
    cases token with
    | nil => cases h
    | cons c rest =>
      have hinside : '@' ∈ rest.dropLast := h
      have hne : rest ≠ [] := by
        rintro rfl
        cases hinside
      obtain ⟨a, b, hab⟩ := List.append_of_mem hinside
      refine ⟨c :: a, b ++ [rest.getLast hne], List.cons_ne_nil c a, by simp, ?_⟩
      calc c :: rest
          = c :: (rest.dropLast ++ [rest.getLast hne]) := by rw [List.dropLast_append_getLast]
        _ = c :: a ++ '@' :: (b ++ [rest.getLast hne]) := by rw [hab]; simp
  · rintro ⟨a, b, ha, hb, rfl⟩
    cases a with
    | nil => exact absurd rfl ha
    | cons c a =>
      show '@' ∈ (a ++ '@' :: b).dropLast
      rw [List.dropLast_append_of_ne_nil (List.cons_ne_nil '@' b), List.dropLast_cons_of_ne_nil hb]
      exact List.mem_append_right a List.mem_cons_self

/-- An email token stays one when more characters join it. -/
theorem isEmailToken_append {token : Text} (h : isEmailToken token = true) (front rest : Text) :
    isEmailToken (front ++ token ++ rest) = true := by
  rw [isEmailToken_iff] at h ⊢
  obtain ⟨a, b, ha, hb, rfl⟩ := h
  refine ⟨front ++ a, b ++ rest, ?_, ?_, ?_⟩
  · exact List.append_ne_nil_of_right_ne_nil front ha
  · exact List.append_ne_nil_of_left_ne_nil hb rest
  · simp

/-- A character in its place, with whether it lies in an email token. -/
def markAt (before : Text) (c : Char) (after : Text) : Char × Bool :=
  (c, !endsToken c && isEmailToken (tokenAround endsToken before (c :: after)))

/-- What was read of a token is marked once the token is complete, and each
character behind it in its place. -/
theorem emailPass_runFrom (before t : Text) :
    emailPass.runFrom (before.takeWhile fun c => !endsToken c) t
      = (before.takeWhile fun c => !endsToken c).reverse.map
          (fun c => (c, isEmailToken (tokenAround endsToken before t)))
        ++ writeInPlace markAt before t := by
  induction t generalizing before with
  | nil =>
    rw [Transducer.runFrom_nil]
    simp [emailPass, markToken, tokenAround, writeInPlace]
  | cons c t ih =>
    have hrest := ih (c :: before)
    rw [writeInPlace, markAt]
    cases hc : endsToken c with
    | true =>
      have hstep : emailPass.step (before.takeWhile fun c => !endsToken c) c
          = ([], markToken (before.takeWhile fun c => !endsToken c).reverse ++ [(c, false)]) := by
        simp [emailPass, hc]
      rw [List.takeWhile_cons_of_neg (by simp [hc])] at hrest
      rw [Transducer.runFrom_cons, hstep, hrest]
      simp [markToken, tokenAround, hc]
    | false =>
      have hstep : emailPass.step (before.takeWhile fun c => !endsToken c) c
          = (c :: before.takeWhile fun c => !endsToken c, []) := by
        simp [emailPass, hc]
      -- the character belongs to the token on either side of it
      have htoken : tokenAround endsToken before (c :: t)
          = tokenAround endsToken (c :: before) t := by
        simp [tokenAround, hc]
      rw [List.takeWhile_cons_of_pos (by simp [hc])] at hrest
      rw [Transducer.runFrom_cons, hstep, hrest, htoken]
      simp

/-- **Tokens.**  Each character is marked with the token around it. -/
theorem markEmails_eq (t : Text) : markEmails t = writeInPlace markAt [] t :=
  emailPass_runFrom [] t

/-! ## Quotes -/

/-- Whether a character is a straight quote. -/
def isStraightQuote (c : Char) : Bool :=
  c == '\'' || c == '"'

/-- A character that is no straight quote is neither of them. -/
theorem ne_of_isStraightQuote {c : Char} (h : isStraightQuote c = false) : c ≠ '\'' ∧ c ≠ '"' := by
  rwa [isStraightQuote, Bool.or_eq_false_iff, beq_eq_false_iff_ne, beq_eq_false_iff_ne] at h

/-- Only straight quotes are curled. -/
theorem curlQuote_of_not_quote {c : Char} (hc : isStraightQuote c = false)
    (previous : Option Char) : curlQuote previous c = c := by
  rw [curlQuote, if_neg (ne_of_isStraightQuote hc).1, if_neg (ne_of_isStraightQuote hc).2]

/-- A straight quote is curled to one of two quotes. -/
theorem curlQuote_of_isStraightQuote {c : Char} (hc : isStraightQuote c = true) :
    (c = '\'' ∧ ∀ previous, curlQuote previous c = if opensQuote previous then '‘' else '’')
      ∨ c = '"' ∧ ∀ previous, curlQuote previous c = if opensQuote previous then '“' else '”' := by
  rw [isStraightQuote, Bool.or_eq_true, beq_iff_eq, beq_iff_eq] at hc
  rcases hc with rfl | rfl
  · exact Or.inl ⟨rfl, fun _ => rfl⟩
  · exact Or.inr ⟨rfl, fun _ => rfl⟩

/-- A quote that is curled is straight no more. -/
theorem curlQuote_ne {c : Char} (hc : isStraightQuote c = true) (previous : Option Char) :
    curlQuote previous c ≠ c := by
  rcases curlQuote_of_isStraightQuote hc with ⟨rfl, hcurl⟩ | ⟨rfl, hcurl⟩
  · rw [hcurl]
    cases opensQuote previous <;> decide
  · rw [hcurl]
    cases opensQuote previous <;> decide

/-- A quote is curled the same way behind two characters if both or neither
open a quotation. -/
theorem curlQuote_eq_iff {c : Char} (hc : isStraightQuote c = true)
    {previous previous' : Option Char} :
    curlQuote previous c = curlQuote previous' c ↔ opensQuote previous = opensQuote previous' := by
  rcases curlQuote_of_isStraightQuote hc with ⟨rfl, hcurl⟩ | ⟨rfl, hcurl⟩
  · rw [hcurl, hcurl]
    cases opensQuote previous <;> cases opensQuote previous' <;> decide
  · rw [hcurl, hcurl]
    cases opensQuote previous <;> cases opensQuote previous' <;> decide

/-- The quotes, straight and curly. -/
def quotes : Text :=
  "'\"‘’“”".toList

/-- A straight quote is a quote, and stays one when it is curled. -/
theorem mem_quotes_of_isStraightQuote {c : Char} (hc : isStraightQuote c = true) :
    c ∈ quotes ∧ ∀ previous, curlQuote previous c ∈ quotes := by
  rcases curlQuote_of_isStraightQuote hc with ⟨rfl, hcurl⟩ | ⟨rfl, hcurl⟩
  · refine ⟨by decide, fun previous => ?_⟩
    rw [hcurl]
    cases opensQuote previous <;> decide
  · refine ⟨by decide, fun previous => ?_⟩
    rw [hcurl]
    cases opensQuote previous <;> decide

/-- A character that ends a token is never curled. -/
theorem curlQuote_of_endsToken {c : Char} (h : endsToken c = true) (previous : Option Char) :
    curlQuote previous c = c := by
  apply curlQuote_of_not_quote
  by_contra hc
  rw [Bool.not_eq_false, isStraightQuote, Bool.or_eq_true, beq_iff_eq, beq_iff_eq] at hc
  rcases hc with rfl | rfl <;> exact absurd h (by decide)

/-- A character in its place: a straight quote is curled unless it lies in an
email token. -/
def quoteAt (before : Text) (c : Char) (after : Text) : Char :=
  if isEmailToken (tokenAround endsToken before (c :: after)) then c else curlQuote before.head? c

/-! ## Markup -/

/-- Markup is open behind a text, given latest first, if an opening bracket in it
has no closing bracket behind it. -/
def IsOpen (before : Text) : Prop :=
  ∃ inside outside, before = inside ++ '<' :: outside ∧ '>' ∉ inside

/-- A character belongs to markup if it is an opening bracket or markup is open
in front of it. -/
def InMarkup (before : Text) (c : Char) : Prop :=
  c = '<' ∨ IsOpen before

theorem not_isOpen_nil : ¬ IsOpen [] := by
  rintro ⟨inside, outside, h, -⟩
  exact List.append_ne_nil_of_right_ne_nil inside (List.cons_ne_nil '<' outside) h.symm

/-- Markup is open behind each of its characters but the closing bracket. -/
theorem isOpen_cons {c : Char} {before : Text} :
    IsOpen (c :: before) ↔ c ≠ '>' ∧ InMarkup before c := by
  constructor
  · rintro ⟨inside, outside, h, hinside⟩
    cases inside with
    | nil =>
      cases h
      exact ⟨by decide, Or.inl rfl⟩
    | cons d inside =>
      cases h
      rw [List.mem_cons, not_or] at hinside
      exact ⟨Ne.symm hinside.1, Or.inr ⟨inside, outside, rfl, hinside.2⟩⟩
  · rintro ⟨hc, rfl | ⟨inside, outside, rfl, hinside⟩⟩
    · exact ⟨[], before, rfl, List.not_mem_nil⟩
    · refine ⟨c :: inside, outside, rfl, ?_⟩
      rw [List.mem_cons, not_or]
      exact ⟨Ne.symm hc, hinside⟩

/-- Whether markup is open behind a text can be read off it. -/
instance decidableIsOpen : (before : Text) → Decidable (IsOpen before)
  | [] => isFalse not_isOpen_nil
  | c :: before =>
    have := decidableIsOpen before
    decidable_of_iff (c ≠ '>' ∧ (c = '<' ∨ IsOpen before)) isOpen_cons.symm

instance (before : Text) (c : Char) : Decidable (InMarkup before c) :=
  inferInstanceAs (Decidable (c = '<' ∨ IsOpen before))

/-- The last character outside markup in a text that is given latest first; if
markup is not skipped, every character counts as outside. -/
def lastOutside (skipMarkup : Bool) : Text → Option Char
  | [] => none
  | c :: before =>
    if skipMarkup = true ∧ InMarkup before c then lastOutside skipMarkup before else some c

/-- A character in its place: a straight quote is curled by the last character
outside markup in front of it, unless it lies in an email token or in markup. -/
def curledAt (skipMarkup : Bool) (before : Text) (c : Char) (after : Text) : Char :=
  if isEmailToken (tokenAround endsToken before (c :: after)) = true
      ∨ skipMarkup = true ∧ InMarkup before c then c
  else curlQuote (lastOutside skipMarkup before) c

/-- The state of the quote pass behind a text. -/
def quoteStateAt (skipMarkup : Bool) (before : Text) : QuoteState :=
  ⟨lastOutside skipMarkup before, skipMarkup && decide (IsOpen before)⟩

/-- **One character.**  The quote pass writes it as it is in its place, and is
then in the state behind it. -/
theorem quotePass_step (skipMarkup : Bool) (before : Text) (c : Char) (after : Text) :
    (quotePass skipMarkup).step (quoteStateAt skipMarkup before) (markAt before c after)
      = (quoteStateAt skipMarkup (c :: before), [curledAt skipMarkup before c after]) := by
  have hopen : ((skipMarkup && decide (IsOpen before)) || (skipMarkup && c == '<')) = true
      ↔ skipMarkup = true ∧ InMarkup before c := by
    rw [InMarkup]
    simp only [Bool.or_eq_true, Bool.and_eq_true, decide_eq_true_eq, beq_iff_eq]
    tauto
  by_cases hmarkup : skipMarkup = true ∧ InMarkup before c
  · have hclose : (c != '>') = (skipMarkup && decide (IsOpen (c :: before))) := by
      rw [Bool.eq_iff_iff]
      simp [hmarkup, isOpen_cons]
    simp only [quotePass, quoteStateAt, markAt]
    rw [if_pos (hopen.2 hmarkup), lastOutside, if_pos hmarkup, curledAt, if_pos (Or.inr hmarkup),
      hclose]
  · have hclosed : (skipMarkup && decide (IsOpen (c :: before))) = false := by
      rw [Bool.and_eq_false_imp, decide_eq_false_iff_not, isOpen_cons]
      exact fun hskip h => hmarkup ⟨hskip, h.2⟩
    have hwritten : (if !endsToken c && isEmailToken (tokenAround endsToken before (c :: after))
        then c else curlQuote (lastOutside skipMarkup before) c)
          = curledAt skipMarkup before c after := by
      cases hc : endsToken c with
      | true => rw [curledAt, curlQuote_of_endsToken hc, ite_self, ite_self]
      | false => simp only [curledAt, hmarkup, or_false, Bool.not_false, Bool.true_and]
    simp only [quotePass, quoteStateAt, markAt]
    rw [if_neg fun h => hmarkup (hopen.1 h), lastOutside, if_neg hmarkup, hclosed, hwritten]

/-- **Quotes.**  Each character is written as it is in its place. -/
theorem smartenQuotes_eq_writeInPlace (skipMarkup : Bool) (t : Text) :
    smartenQuotes skipMarkup t = writeInPlace (curledAt skipMarkup) [] t := by
  have held : ∀ before, (quotePass skipMarkup).runFrom (quoteStateAt skipMarkup before)
      (writeInPlace markAt before t) = writeInPlace (curledAt skipMarkup) before t := by
    induction t with
    | nil => exact fun _ => rfl
    | cons c t ih =>
      intro before
      rw [writeInPlace, writeInPlace, Transducer.runFrom_cons, quotePass_step, ih,
        List.singleton_append]
  have hstart : quoteStateAt skipMarkup [] = (quotePass skipMarkup).start := by
    cases skipMarkup <;> rfl
  rw [smartenQuotes, markEmails_eq, Transducer.run, ← hstart, held]

/-! ## Texts without markup -/

/-- Where no bracket opens markup every character is outside it. -/
theorem not_inMarkup_of_not_mem {before : Text} {c : Char} (h : '<' ∉ c :: before) :
    ¬ InMarkup before c := by
  rw [List.mem_cons, not_or] at h
  rintro (rfl | ⟨inside, outside, rfl, -⟩)
  · exact h.1 rfl
  · exact h.2 (List.mem_append_right inside List.mem_cons_self)

/-- In a text without markup the last character is outside markup. -/
theorem lastOutside_of_not_mem {skipMarkup : Bool} {before : Text}
    (h : skipMarkup = true → '<' ∉ before) : lastOutside skipMarkup before = before.head? := by
  cases before with
  | nil => rfl
  | cons c before =>
    rw [lastOutside, if_neg fun hmarkup => not_inMarkup_of_not_mem (h hmarkup.1) hmarkup.2]
    rfl

/-- **Plain text.**  In a text without markup each quote is curled by the token
around it and the character in front of it. -/
theorem smartenQuotes_eq {skipMarkup : Bool} {t : Text} (h : skipMarkup = true → '<' ∉ t) :
    smartenQuotes skipMarkup t = writeInPlace quoteAt [] t := by
  rw [smartenQuotes_eq_writeInPlace, writeInPlace_eq_iff]
  rintro front c after rfl
  have hbefore : skipMarkup = true → '<' ∉ c :: (front.reverse ++ []) := by
    intro hskip hmem
    refine h hskip ?_
    rw [List.append_nil, List.mem_cons, List.mem_reverse] at hmem
    rw [List.mem_append, List.mem_cons]
    tauto
  have hmarkup : ¬ (skipMarkup = true ∧ InMarkup (front.reverse ++ []) c) :=
    fun hin => not_inMarkup_of_not_mem (hbefore hin.1) hin.2
  rw [curledAt, quoteAt, lastOutside_of_not_mem fun hskip hmem =>
    hbefore hskip (List.mem_cons_of_mem c hmem)]
  simp only [hmarkup, or_false]

end MessageTemplate

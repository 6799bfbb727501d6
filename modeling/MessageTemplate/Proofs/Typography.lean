/-
# What typography does to a text

Curling quotes rewrites a text place by place (`smartenQuotes_in_place`), and the
dashes between blanks are then replaced one after the other (`Dashed`).  Neither
moves the bounds of a token: the tokens of the text are kept in their order, each
email address as it is, and of the others only quotes and single dashes change
(`niceTypography_keeps_tokens`).
-/
import Mathlib
import MessageTemplate.Proofs.Addresses
import MessageTemplate.Proofs.Phrase

namespace MessageTemplate

/-! ## Quotes in their place -/

/-- The characters behind which a quote opens a quotation, blanks apart. -/
def openers : Text :=
  ['(', '[', '{', '>', '-', '–', '—']

/-- A straight quote as it opens a quotation. -/
def openingQuote (c : Char) : Char :=
  if c = '\'' then '‘' else '“'

/-- A straight quote as it closes a quotation. -/
def closingQuote (c : Char) : Char :=
  if c = '\'' then '’' else '”'

/-- Nothing, a blank and an opener open a quotation. -/
theorem opensQuote_eq (previous : Option Char) :
    opensQuote previous = previous.all fun d => isBlank d || openers.contains d := by
  cases previous with
  | none => rfl
  | some d =>
    simp only [opensQuote, Option.all_some, openers, List.contains_cons, List.contains_nil,
      Bool.or_false, Bool.or_assoc]

/-- A straight quote is curled as it opens or closes a quotation. -/
theorem curlQuote_eq {c : Char} (hc : isStraightQuote c = true) (previous : Option Char) :
    curlQuote previous c = if opensQuote previous then openingQuote c else closingQuote c := by
  rcases curlQuote_of_isStraightQuote hc with ⟨rfl, hcurl⟩ | ⟨rfl, hcurl⟩
  · rw [hcurl]
    rfl
  · rw [hcurl]
    rfl

/-- Neither a token nor markup ends or opens at a straight quote. -/
theorem endsToken_of_isStraightQuote {c : Char} (hc : isStraightQuote c = true) :
    endsToken c = false ∧ c ≠ '<' := by
  rcases curlQuote_of_isStraightQuote hc with ⟨rfl, -⟩ | ⟨rfl, -⟩ <;> decide

/-- **Quotes.**  As many characters are written as are read, and each as it is
unless it is a straight quote that no email address covers and that stands in no
markup that is skipped.  Such a quote opens a quotation if the last character
outside markup in front of it is missing, a blank or an opener, and closes one
otherwise. -/
theorem smartenQuotes_in_place (skipMarkup : Bool) :
    (∀ t, (smartenQuotes skipMarkup t).length = t.length)
      ∧ ∀ (front : Text) (c : Char) (after : Text),
        (smartenQuotes skipMarkup (front ++ c :: after))[front.length]?
          = some (if isStraightQuote c = true
                ∧ coveredBy (emailSpans 0 (front ++ c :: after)) front.length = false
                ∧ ¬ (skipMarkup = true ∧ IsOpen front.reverse)
              then
                if (lastOutside skipMarkup front.reverse).all fun d =>
                  isBlank d || openers.contains d
                then openingQuote c else closingQuote c
              else c) := by
  constructor
  · intro t
    rw [smartenQuotes_eq_writeInPlace, length_writeInPlace]
  · intro front c after
    rw [smartenQuotes_eq_writeInPlace, getElem?_writeInPlace, List.append_nil, curledAt,
      coveredBy_in_place, ← opensQuote_eq]
    cases hc : isStraightQuote c with
    | false => simp [curlQuote_of_not_quote hc]
    | true =>
      obtain ⟨hends, hopen⟩ := endsToken_of_isStraightQuote hc
      have hmarkup : InMarkup front.reverse c ↔ IsOpen front.reverse := or_iff_right hopen
      rw [← curlQuote_eq hc]
      split
      · rename_i hstays
        rw [if_neg]
        rintro ⟨-, huncovered, houtside⟩
        rw [hends, Bool.not_false, Bool.true_and] at huncovered
        rcases hstays with hemail | hinside
        · rw [huncovered] at hemail
          cases hemail
        · exact houtside ⟨hinside.1, hmarkup.1 hinside.2⟩
      · rename_i hcurled
        rw [not_or, Bool.not_eq_true, hmarkup] at hcurled
        rw [if_pos ⟨rfl, by rw [hcurled.1, Bool.and_false], hcurled.2⟩]

/-! ## Dashes -/

/-- The dashes that are replaced between blanks. -/
def dashes : List Text :=
  [['-'], ['-', '-'], ['-', '-', '-'], ['–'], ['—']]

/-- A dash with spaces or tabs on both sides. -/
def IsSpacedDash (w : Text) : Prop :=
  ∃ before dash after, w = before ++ dash ++ after ∧ dash ∈ dashes
    ∧ before ≠ [] ∧ after ≠ [] ∧ ∀ c ∈ before ++ after, isSpaceOrTab c = true

/-- A text, and the text with some of its spaced dashes replaced from left to right. -/
inductive Dashed : Text → Text → Prop
  | nil : Dashed [] []
  | char {t u : Text} (c : Char) : Dashed t u → Dashed (c :: t) (c :: u)
  | dash {w t u : Text} : IsSpacedDash w → Dashed t u → Dashed (w ++ t) (' ' :: '–' :: ' ' :: u)

/-- A text may be copied in front of another. -/
theorem Dashed.append {t u : Text} (h : Dashed t u) (w : Text) : Dashed (w ++ t) (w ++ u) := by
  induction w with
  | nil => exact h
  | cons c w ih => exact ih.char c

/-- What the dash pass holds back: a run of blanks, and perhaps a dash behind it. -/
def DashState.Holds : DashState → Prop
  | .text => True
  | .blanks before => before ≠ [] ∧ ∀ c ∈ before, isSpaceOrTab c = true
  | .dash before hyphens =>
    before ≠ [] ∧ (∀ c ∈ before, isSpaceOrTab c = true) ∧ hyphens ∈ dashes
  | .spaced => True

/-- What may be written from a state on for the rest of a text: what was held back
counts as part of the rest, and blanks behind a spaced dash as part of the dash. -/
def DashState.Writes : DashState → Text → Text → Prop
  | .spaced, t, u => ∃ after rest, t = after ++ rest
      ∧ (∀ c ∈ after, isSpaceOrTab c = true) ∧ Dashed rest u
  | s, t, u => Dashed (s.held ++ t) u

/-- A hyphen that extends a dash makes it a longer one. -/
theorem mem_dashes_of_extendsDash {hyphens : Text} (h : extendsDash hyphens = true) :
    hyphens ++ ['-'] ∈ dashes := by
  rw [extendsDash, Bool.or_eq_true, beq_iff_eq, beq_iff_eq] at h
  rcases h with rfl | rfl <;> decide

/-- **One character.**  The dash pass goes on to hold back what may be part of a
spaced dash, and writes the character for itself or as part of one. -/
theorem dashPass_step_writes {s : DashState} (hs : s.Holds) (c : Char) :
    (dashPass.step s c).1.Holds
      ∧ ∀ t u, (dashPass.step s c).1.Writes t u →
          s.Writes (c :: t) ((dashPass.step s c).2 ++ u) := by
  -- a character that is no part of a spaced dash is written behind what was held back
  have hcopied : ∀ (held t u : Text), Dashed t u → Dashed (held ++ c :: t) (held ++ [c] ++ u) := by
    intro held t u h
    rw [List.append_assoc]
    exact (h.char c).append held
  cases s with
  | text =>
    simp only [dashPass]
    split
    · rename_i hc
      exact ⟨⟨List.cons_ne_nil c [], List.forall_mem_singleton.2 hc⟩, fun t u h => h⟩
    · exact ⟨trivial, fun t u h => hcopied [] t u h⟩
  | blanks before =>
    obtain ⟨hne, hbefore⟩ := hs
    simp only [dashPass]
    split
    · rename_i hc
      refine ⟨⟨List.cons_ne_nil c before, List.forall_mem_cons.2 ⟨hc, hbefore⟩⟩, fun t u h => ?_⟩
      simpa [DashState.Writes, DashState.held] using h
    split
    · rename_i hdash
      refine ⟨⟨hne, hbefore, ?_⟩, fun t u h => ?_⟩
      · simp only [Bool.or_eq_true, beq_iff_eq] at hdash
        rcases hdash with (rfl | rfl) | rfl <;> decide
      · simpa [DashState.Writes, DashState.held] using h
    · exact ⟨trivial, fun t u h => hcopied before.reverse t u h⟩
  | dash before hyphens =>
    obtain ⟨hne, hbefore, hhyphens⟩ := hs
    simp only [dashPass]
    split
    · rename_i hc
      refine ⟨trivial, fun t u h => ?_⟩
      obtain ⟨after, rest, rfl, hafter, hrest⟩ := h
      have hspaced : IsSpacedDash (before.reverse ++ hyphens ++ c :: after) := by
        refine ⟨before.reverse, hyphens, c :: after, rfl, hhyphens, by simpa using hne,
          List.cons_ne_nil c after, ?_⟩
        rw [List.forall_mem_append, List.forall_mem_cons]
        exact ⟨fun d hd => hbefore d (List.mem_reverse.1 hd), hc, hafter⟩
      simpa [DashState.Writes, DashState.held] using Dashed.dash hspaced hrest
    split
    · rename_i hextends
      rw [Bool.and_eq_true, beq_iff_eq] at hextends
      refine ⟨⟨hne, hbefore, ?_⟩, fun t u h => ?_⟩
      · rw [hextends.1]
        exact mem_dashes_of_extendsDash hextends.2
      · simpa [DashState.Writes, DashState.held] using h
    · exact ⟨trivial, fun t u h => hcopied (before.reverse ++ hyphens) t u h⟩
  | spaced =>
    simp only [dashPass]
    split
    · rename_i hc
      refine ⟨trivial, fun t u h => ?_⟩
      obtain ⟨after, rest, rfl, hafter, hrest⟩ := h
      exact ⟨c :: after, rest, rfl, List.forall_mem_cons.2 ⟨hc, hafter⟩, hrest⟩
    · exact ⟨trivial, fun t u h =>
        ⟨[], c :: t, rfl, fun d hd => absurd hd List.not_mem_nil, hcopied [] t u h⟩⟩

/-- **Dashes.**  The dash pass replaces spaced dashes and copies all else. -/
theorem dashed_replaceSpacedHyphens (t : Text) : Dashed t (replaceSpacedHyphens t) := by
  have held : ∀ (t : Text) (s : DashState), s.Holds → s.Writes t (dashPass.runFrom s t) := by
    intro t
    induction t with
    | nil =>
      intro s _
      rw [Transducer.runFrom_nil, dashPass_finish]
      cases s with
      | spaced => exact ⟨[], [], rfl, fun c hc => absurd hc List.not_mem_nil, .nil⟩
      | text | blanks before | dash before hyphens =>
        simpa [DashState.Writes] using Dashed.nil.append (DashState.held _)
    | cons c t ih =>
      intro s hs
      obtain ⟨hnext, hwrites⟩ := dashPass_step_writes hs c
      rw [Transducer.runFrom_cons]
      exact hwrites t _ (ih _ hnext)
  exact held t .text trivial

/-! ## Tokens -/

/-- The tokens of a text, in reading order. -/
def Text.tokens (t : Text) : List Text :=
  t.runs endsToken

/-- A text that nothing ends is its only token, unless it is empty. -/
theorem tokens_of_forall {w : Text} (hw : ∀ c ∈ w, endsToken c = false) :
    w.tokens = if w = [] then [] else [w] :=
  Text.runs_of_forall hw

/-- What ends a token parts the tokens in front of it from those behind it. -/
theorem tokens_append_cons {c : Char} (hc : endsToken c = true) (t u : Text) :
    Text.tokens (t ++ c :: u) = t.tokens ++ u.tokens :=
  Text.runs_append_cons hc t u

/-- What only ends tokens holds none itself. -/
theorem tokens_append_of_forall {w : Text} (hw : ∀ c ∈ w, endsToken c = true) (t : Text) :
    Text.tokens (w ++ t) = t.tokens :=
  Text.runs_append_of_forall hw t

/-! ## Tokens with curled quotes -/

/-- What a character may become when quotes are curled. -/
def MayCurl (c d : Char) : Prop :=
  d = c ∨ c = '\'' ∧ (d = '‘' ∨ d = '’') ∨ c = '"' ∧ (d = '“' ∨ d = '”')

/-- A quote may be curled either way. -/
theorem mayCurl_curlQuote (previous : Option Char) (c : Char) :
    MayCurl c (curlQuote previous c) := by
  unfold MayCurl curlQuote
  split
  · split <;> simp_all
  · split
    · split <;> simp_all
    · exact Or.inl rfl

/-- No quote ends a token. -/
theorem MayCurl.endsToken_eq {c d : Char} (h : MayCurl c d) : endsToken d = endsToken c := by
  rcases h with rfl | ⟨rfl, rfl | rfl⟩ | ⟨rfl, rfl | rfl⟩
  · rfl
  all_goals decide

/-- Curling quotes ends no token. -/
theorem endsToken_of_curled {w u : Text} (h : List.Forall₂ MayCurl w u)
    (hw : ∀ c ∈ w, endsToken c = false) : ∀ d ∈ u, endsToken d = false := by
  induction h with
  | nil => exact fun d hd => absurd hd List.not_mem_nil
  | cons hcd _ ih =>
    rw [List.forall_mem_cons] at hw ⊢
    exact ⟨hcd.endsToken_eq.trans hw.1, ih hw.2⟩

/-- What a token may become when quotes are curled. -/
structure CurledToken (token written : Text) : Prop where
  address : isEmailToken token = true → written = token
  curled : List.Forall₂ MayCurl token written

/-- One character is written for each that the quote pass reads; one that lies in
an email token is written as it is. -/
theorem quotePass_step_curled (skipMarkup : Bool) (s : QuoteState) (c : Char) (inEmail : Bool) :
    ∃ d, ((quotePass skipMarkup).step s (c, inEmail)).2 = [d] ∧ MayCurl c d
      ∧ (inEmail = true → d = c) := by
  simp only [quotePass]
  split
  · exact ⟨c, rfl, Or.inl rfl, fun _ => rfl⟩
  · cases inEmail with
    | true => exact ⟨c, rfl, Or.inl rfl, fun _ => rfl⟩
    | false => exact ⟨_, rfl, mayCurl_curlQuote s.previous c, fun h => by cases h⟩

/-- What the quote pass writes is told character by character. -/
theorem quotePass_written (skipMarkup : Bool) (s : QuoteState) (l : List (Char × Bool)) :
    List.Forall₂ (fun m d => MayCurl m.1 d ∧ (m.2 = true → d = m.1)) l
      ((quotePass skipMarkup).written s l) := by
  induction l generalizing s with
  | nil => exact .nil
  | cons m l ih =>
    obtain ⟨c, inEmail⟩ := m
    obtain ⟨d, hstep, hd⟩ := quotePass_step_curled skipMarkup s c inEmail
    rw [Transducer.written, hstep]
    exact .cons hd (ih _)

/-- The quote pass writes a token as one token. -/
theorem quotePass_written_token (skipMarkup : Bool) (s : QuoteState) {w : Text}
    (hw : ∀ c ∈ w, endsToken c = false) :
    List.Forall₂ CurledToken w.tokens
      (Text.tokens ((quotePass skipMarkup).written s (markToken w))) := by
  have hwritten := quotePass_written skipMarkup s (markToken w)
  generalize (quotePass skipMarkup).written s (markToken w) = u at hwritten
  rw [markToken, List.forall₂_map_left_iff] at hwritten
  have hcurled : List.Forall₂ MayCurl w u := hwritten.imp fun c d h => h.1
  rw [tokens_of_forall hw, tokens_of_forall (endsToken_of_curled hcurled hw)]
  by_cases hnil : w = []
  · subst hnil
    cases hwritten
    exact .nil
  · have hnil' : u ≠ [] := by
      rintro rfl
      cases hwritten
      exact hnil rfl
    rw [if_neg hnil, if_neg hnil']
    refine .cons ⟨fun hemail => ?_, hcurled⟩ .nil
    have hsame : List.Forall₂ Eq w u := hwritten.imp fun c d h => (h.2 hemail).symm
    rw [List.forall₂_eq_eq_eq] at hsame
    exact hsame.symm

/-- **Quotes keep tokens.**  A text has the same tokens before and after its quotes
are curled, and each email token stays as it is. -/
theorem tokens_smartenQuotes (skipMarkup : Bool) (t : Text) :
    List.Forall₂ CurledToken t.tokens (Text.tokens (smartenQuotes skipMarkup t)) := by
  have held : ∀ s, List.Forall₂ CurledToken t.tokens
      (Text.tokens ((quotePass skipMarkup).runFrom s (markEmails t))) := by
    induction t using Text.induction_on_runs endsToken with
    | last w hw =>
      intro s
      have hrun := (quotePass skipMarkup).runFrom_append s (markToken w) []
      rw [List.append_nil, Transducer.runFrom_nil] at hrun
      rw [markEmails_token hw, hrun]
      show List.Forall₂ CurledToken w.tokens
        (Text.tokens ((quotePass skipMarkup).written s (markToken w) ++ []))
      rw [List.append_nil]
      exact quotePass_written_token skipMarkup s hw
    | next w c t hw hc ih =>
      intro s
      obtain ⟨d, hstep, hcd, -⟩ := quotePass_step_curled skipMarkup
        ((quotePass skipMarkup).stateAfter s (markToken w)) c false
      have hd : endsToken d = true := hcd.endsToken_eq.trans hc
      rw [markEmails_append_cons hw hc, Transducer.runFrom_append, Transducer.runFrom_cons, hstep,
        List.singleton_append, tokens_append_cons hc, tokens_append_cons hd]
      exact List.rel_append (quotePass_written_token skipMarkup s hw) (ih _)
  exact held _

/-! ## Tokens with dashes replaced -/

/-- What a token may become when spaced dashes are replaced. -/
def DashedToken (token written : Text) : Prop :=
  written = token ∨ token ∈ dashes ∧ written = ['–']

/-- A dash is a token. -/
theorem token_of_mem_dashes : ∀ dash ∈ dashes, dash ≠ [] ∧ ∀ c ∈ dash, endsToken c = false := by
  simp [dashes, endsToken, isBlank]

/-- Blanks end tokens. -/
theorem endsToken_of_isSpaceOrTab {c : Char} (h : isSpaceOrTab c = true) : endsToken c = true := by
  rw [isSpaceOrTab, Bool.or_eq_true, beq_iff_eq, beq_iff_eq] at h
  rcases h with rfl | rfl <;> decide

/-- A spaced dash is one token between those in front of it and those behind it. -/
theorem tokens_spacedDash {before dash after : Text} (hdash : dash ∈ dashes) (hbefore : before ≠ [])
    (hafter : after ≠ []) (hblank : ∀ c ∈ before ++ after, isSpaceOrTab c = true) (w t : Text) :
    Text.tokens (w ++ (before ++ dash ++ after ++ t)) = w.tokens ++ dash :: t.tokens := by
  obtain ⟨b, before, rfl⟩ := List.exists_cons_of_ne_nil hbefore
  obtain ⟨a, after, rfl⟩ := List.exists_cons_of_ne_nil hafter
  have hends : ∀ c ∈ b :: before ++ a :: after, endsToken c = true :=
    fun c hc => endsToken_of_isSpaceOrTab (hblank c hc)
  rw [List.forall_mem_append, List.forall_mem_cons, List.forall_mem_cons] at hends
  obtain ⟨⟨hb, hbefore⟩, ha, hafter⟩ := hends
  obtain ⟨hne, htoken⟩ := token_of_mem_dashes dash hdash
  calc Text.tokens (w ++ (b :: before ++ dash ++ a :: after ++ t))
      = Text.tokens (w ++ b :: (before ++ (dash ++ a :: (after ++ t)))) := by simp
    _ = w.tokens ++ Text.tokens (before ++ (dash ++ a :: (after ++ t))) := tokens_append_cons hb _ _
    _ = w.tokens ++ Text.tokens (dash ++ a :: (after ++ t)) := by
        rw [tokens_append_of_forall hbefore]
    _ = w.tokens ++ (dash.tokens ++ Text.tokens (after ++ t)) := by rw [tokens_append_cons ha]
    _ = w.tokens ++ dash :: t.tokens := by
        rw [tokens_of_forall htoken, if_neg hne, List.singleton_append,
          tokens_append_of_forall hafter]

/-- **Dashes keep tokens.**  When spaced dashes are replaced each token stays as it
is or is a dash. -/
theorem Dashed.tokens {t u : Text} (h : Dashed t u) :
    List.Forall₂ DashedToken t.tokens u.tokens := by
  -- the characters in front may belong to the first token of both texts
  have held : ∀ w, List.Forall₂ DashedToken (Text.tokens (w ++ t)) (Text.tokens (w ++ u)) := by
    have hself : ∀ w : Text, List.Forall₂ DashedToken w.tokens w.tokens :=
      fun w => List.forall₂_same.2 fun token _ => Or.inl rfl
    induction h with
    | nil => exact fun w => hself _
    | @char t u c _ ih =>
      intro w
      cases hc : endsToken c with
      | true =>
        rw [tokens_append_cons hc, tokens_append_cons hc]
        exact List.rel_append (hself w) (ih [])
      | false =>
        have hjoined := ih (w ++ [c])
        rwa [List.append_assoc, List.append_assoc] at hjoined
    | @dash v t u hv _ ih =>
      intro w
      obtain ⟨before, dash, after, rfl, hdash, hbefore, hafter, hblank⟩ := hv
      have hwritten : Text.tokens (w ++ ([' '] ++ ['–'] ++ [' '] ++ u))
          = w.tokens ++ ['–'] :: u.tokens :=
        tokens_spacedDash (by decide) (by decide) (by decide) (by simp [isSpaceOrTab]) w u
      rw [tokens_spacedDash hdash hbefore hafter hblank]
      exact hwritten ▸ List.rel_append (hself w) (.cons (Or.inr ⟨hdash, rfl⟩) (ih []))
  exact held []

/-! ## Tokens that are typeset -/

/-- What two relations say in a row of the members of lists. -/
theorem forall₂_comp {R S T : Text → Text → Prop} (h : ∀ a b c, R a b → S b c → T a c)
    {l m n : List Text} (hlm : List.Forall₂ R l m) (hmn : List.Forall₂ S m n) :
    List.Forall₂ T l n := by
  induction hlm generalizing n with
  | nil =>
    cases hmn
    exact .nil
  | cons hab _ ih =>
    cases hmn with
    | cons hbc hrest => exact .cons (h _ _ _ hab hbc) (ih hrest)

/-- A dash is what it was before any quotes were curled, and no email token. -/
theorem CurledToken.eq_of_mem_dashes {token dash : Text} (h : CurledToken token dash)
    (hdash : dash ∈ dashes) : token = dash ∧ isEmailToken token = false := by
  have hstraight : ∀ dash ∈ dashes, ∀ d ∈ dash, d ∉ ['‘', '’', '“', '”'] := by simp [dashes]
  have hplain : ∀ dash ∈ dashes, isEmailToken dash = false := by decide
  have hsame : ∀ {w u : Text}, List.Forall₂ MayCurl w u →
      (∀ d ∈ u, d ∉ ['‘', '’', '“', '”']) → w = u := by
    intro w u hcurled
    induction hcurled with
    | nil => exact fun _ => rfl
    | @cons c d _ _ hcd _ ih =>
      intro hu
      rw [List.forall_mem_cons] at hu
      rcases hcd with rfl | ⟨-, rfl | rfl⟩ | ⟨-, rfl | rfl⟩
      · rw [ih hu.2]
      all_goals exact absurd hu.1 (by decide)
  obtain rfl := hsame h.curled (hstraight dash hdash)
  exact ⟨rfl, hplain token hdash⟩

/-- What typography may write for a token: an email address stays as it is; in any
other token quotes may be curled, and a dash alone may become an en dash. -/
structure TypesetToken (token written : Text) : Prop where
  address : (∃ user host, user ≠ [] ∧ host ≠ [] ∧ token = user ++ '@' :: host) → written = token
  other : List.Forall₂ MayCurl token written ∨ token ∈ dashes ∧ written = ['–']

/-- **Typography.**  A text has the same tokens in the same order before and
after it is typeset, but for quotes that are curled and single dashes. -/
theorem niceTypography_keeps_tokens (skipMarkup : Bool) (t : Text) :
    List.Forall₂ TypesetToken t.tokens (Text.tokens (niceTypography skipMarkup t)) := by
  refine forall₂_comp ?_ (tokens_smartenQuotes skipMarkup t)
    (dashed_replaceSpacedHyphens (smartenQuotes skipMarkup t)).tokens
  rintro token curled written hcurled (rfl | ⟨hdash, rfl⟩)
  · refine ⟨fun ⟨user, host, huser, hhost, htoken⟩ => ?_, Or.inl hcurled.curled⟩
    exact hcurled.address (isEmailToken_iff.2 ⟨user, host, huser, hhost, htoken⟩)
  · obtain ⟨rfl, hplain⟩ := hcurled.eq_of_mem_dashes hdash
    refine ⟨fun ⟨user, host, huser, hhost, htoken⟩ => ?_, Or.inr ⟨hdash, rfl⟩⟩
    have hemail := isEmailToken_iff.2 ⟨user, host, huser, hhost, htoken⟩
    rw [hplain] at hemail
    cases hemail

end MessageTemplate

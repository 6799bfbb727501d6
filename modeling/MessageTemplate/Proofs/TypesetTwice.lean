/-
# Texts that were typeset before

When a text is typeset, each straight quote that is left lies in an email token or
in markup that is skipped (`QuotesStay`).  The dash pass moves neither tokens nor
markup, so these quotes stay a second time, and there are no dashes to replace
(`niceTypography_niceTypography`).
-/
import Mathlib
import MessageTemplate.Proofs.Dashes
import MessageTemplate.Proofs.Markup

namespace MessageTemplate

/-! ## Markup by its brackets -/

/-- The angle brackets of a text. -/
def brackets (t : Text) : Text :=
  t.filter isAngle

/-- The angle brackets in front of a place tell whether markup is open there. -/
theorem isOpen_brackets (before : Text) : IsOpen (brackets before) ↔ IsOpen before := by
  induction before with
  | nil => rfl
  | cons c before ih =>
    rw [brackets] at ih ⊢
    cases hc : isAngle c with
    | true => rw [List.filter_cons_of_pos hc, isOpen_cons, isOpen_cons, InMarkup, InMarkup, ih]
    | false =>
      rw [List.filter_cons_of_neg (by simp [hc]), ih, isOpen_cons, InMarkup]
      simp [isAngle_eq_false_iff.1 hc]

/-- Texts with the same angle brackets leave markup open alike. -/
theorem isOpen_congr {front front' : Text} (h : brackets front = brackets front') :
    IsOpen front.reverse ↔ IsOpen front'.reverse := by
  have hreverse : brackets front.reverse = brackets front'.reverse := by
    rw [brackets, brackets, List.filter_reverse, List.filter_reverse]
    exact congrArg List.reverse h
  rw [← isOpen_brackets front.reverse, hreverse, isOpen_brackets]

/-! ## Quotes that stay -/

/-- Each straight quote of a text stays as it is: it lies in an email token, or in
markup that is skipped. -/
def QuotesStay (skipMarkup : Bool) (t : Text) : Prop :=
  ∀ front c after, t = front ++ c :: after → isStraightQuote c = true →
    isEmailToken (tokenAround endsToken front.reverse (c :: after)) = true
      ∨ skipMarkup = true ∧ IsOpen front.reverse

/-- A text whose straight quotes all stay is left as it is. -/
theorem QuotesStay.smartenQuotes_eq {skipMarkup : Bool} {t : Text} (h : QuotesStay skipMarkup t) :
    smartenQuotes skipMarkup t = t := by
  have hself : ∀ before u : Text, writeInPlace (fun _ c _ => c) before u = u := by
    intro before u
    induction u generalizing before with
    | nil => rfl
    | cons c u ih => rw [writeInPlace, ih]
  rw [smartenQuotes_eq_writeInPlace]
  refine Eq.trans ?_ (hself [] t)
  rw [writeInPlace_eq_iff]
  intro front c after hsplit
  rw [List.append_nil, curledAt]
  cases hc : isStraightQuote c with
  | false => rw [curlQuote_of_not_quote hc, ite_self]
  | true =>
    refine if_pos ((h front c after hsplit hc).imp_right fun hmarkup => ⟨hmarkup.1, ?_⟩)
    exact Or.inr hmarkup.2

/-! ## Quotes that were curled -/

section Forall₂

variable {α β : Type} {R : α → β → Prop}

/-- A list that is related to one with a member in between is parted by a related member. -/
theorem exists_append_cons_of_forall₂ {l : List α} {front' after' : List β} {b : β}
    (h : List.Forall₂ R l (front' ++ b :: after')) :
    ∃ front a after, l = front ++ a :: after ∧ List.Forall₂ R front front' ∧ R a b
      ∧ List.Forall₂ R after after' := by
  obtain ⟨a, after, hab, hafter, hdrop⟩ :=
    List.forall₂_cons_right_iff.1 (List.forall₂_drop_append _ _ _ h)
  refine ⟨_, a, after, ?_, List.forall₂_take_append _ _ _ h, hab, hafter⟩
  rw [← hdrop, List.take_append_drop]

/-- Related lists have related fronts. -/
theorem forall₂_takeWhile {p : α → Bool} {q : β → Bool} (hpq : ∀ a b, R a b → p a = q b)
    {l : List α} {m : List β} (h : List.Forall₂ R l m) :
    List.Forall₂ R (l.takeWhile p) (m.takeWhile q) := by
  induction h with
  | nil => exact .nil
  | @cons a b l m hab _ ih =>
    rw [List.takeWhile_cons, List.takeWhile_cons, hpq a b hab]
    split
    · exact .cons hab ih
    · exact .nil

end Forall₂

/-- A straight quote was straight before any were curled. -/
theorem MayCurl.eq_of_isStraightQuote {c d : Char} (h : MayCurl c d)
    (hd : isStraightQuote d = true) : d = c := by
  rcases h with rfl | ⟨rfl, rfl | rfl⟩ | ⟨rfl, rfl | rfl⟩
  · rfl
  all_goals cases hd

section Curled

variable {w u : Text}

/-- Curling quotes leaves the angle brackets of a text. -/
theorem brackets_of_curled (h : List.Forall₂ MayCurl w u) : brackets w = brackets u := by
  induction h with
  | nil => rfl
  | @cons c d w u hcd _ ih =>
    unfold brackets at ih ⊢
    rcases hcd with rfl | ⟨rfl, rfl | rfl⟩ | ⟨rfl, rfl | rfl⟩
    · rw [List.filter_cons, List.filter_cons, ih]
    all_goals exact ih

/-- Curling quotes leaves the at signs of a token. -/
theorem isEmailToken_of_curled (h : List.Forall₂ MayCurl w u) (hw : isEmailToken w = true) :
    isEmailToken u = true := by
  rw [isEmailToken_iff] at hw ⊢
  obtain ⟨a, b, ha, hb, rfl⟩ := hw
  obtain ⟨a', d, b', rfl, ha', hd, hb'⟩ := exists_append_cons_of_forall₂ h.flip
  have hat : d = '@' := by
    rcases hd with rfl | ⟨h, -⟩ | ⟨h, -⟩
    · rfl
    all_goals cases h
  refine ⟨a', b', ?_, ?_, by rw [hat]⟩
  · rintro rfl
    cases ha'
    exact ha rfl
  · rintro rfl
    cases hb'
    exact hb rfl

/-- The token around a place is the one that was there, with its quotes curled. -/
theorem tokenAround_of_curled {before before' after after' : Text}
    (hbefore : List.Forall₂ MayCurl before before') (hafter : List.Forall₂ MayCurl after after') :
    List.Forall₂ MayCurl (tokenAround endsToken before after)
      (tokenAround endsToken before' after') := by
  have hends : ∀ c d, MayCurl c d → (!endsToken c) = !endsToken d :=
    fun c d h => by rw [h.endsToken_eq]
  exact List.rel_append (List.forall₂_reverse_iff.2 (forall₂_takeWhile hends hbefore))
    (forall₂_takeWhile hends hafter)

end Curled

/-- Each character is written as it is, or curled. -/
theorem mayCurl_smartenQuotes (skipMarkup : Bool) (t : Text) :
    List.Forall₂ MayCurl t (smartenQuotes skipMarkup t) := by
  have hwritten := (quotePass_written skipMarkup (quotePass skipMarkup).start (markEmails t)).imp
    fun m d h => h.1
  have hrun := (quotePass skipMarkup).runFrom_append (quotePass skipMarkup).start (markEmails t) []
  rw [← List.forall₂_map_left_iff (f := Prod.fst), map_fst_markEmails] at hwritten
  rw [List.append_nil, Transducer.runFrom_nil] at hrun
  rw [smartenQuotes, Transducer.run, hrun]
  exact (List.append_nil _).symm ▸ hwritten

/-- **Quotes.**  The straight quotes that are left when quotes are curled stay. -/
theorem quotesStay_smartenQuotes (skipMarkup : Bool) (t : Text) :
    QuotesStay skipMarkup (smartenQuotes skipMarkup t) := by
  intro front' d after' hsplit hd
  have hcurled := mayCurl_smartenQuotes skipMarkup t
  rw [hsplit] at hcurled
  obtain ⟨front, c, after, rfl, hfront, hcd, hafter⟩ := exists_append_cons_of_forall₂ hcurled
  obtain rfl := hcd.eq_of_isStraightQuote hd
  have hwritten := getElem?_writeInPlace (f := curledAt skipMarkup) [] front d after
  rw [← smartenQuotes_eq_writeInPlace, hsplit, hfront.length_eq, List.append_nil,
    List.getElem?_append_right le_rfl, Nat.sub_self, List.getElem?_cons_zero, Option.some.injEq,
    curledAt] at hwritten
  split at hwritten
  · rename_i hstays
    refine hstays.imp (fun hemail => ?_) fun hmarkup => ⟨hmarkup.1, ?_⟩
    · exact isEmailToken_of_curled (tokenAround_of_curled (List.forall₂_reverse_iff.2 hfront)
        (.cons (Or.inl rfl) hafter)) hemail
    · rw [← isOpen_congr (brackets_of_curled hfront)]
      exact hmarkup.2.resolve_left (endsToken_of_isStraightQuote hd).2
  · exact absurd hwritten.symm (curlQuote_ne hd _)

/-! ## Quotes beside dashes -/

section SpacedDash

variable {w : Text} (hw : IsSpacedDash w)
include hw

/-- A spaced dash starts with a character that ends a token. -/
theorem exists_first_of_spacedDash : ∃ b rest, w = b :: rest ∧ endsToken b = true := by
  obtain ⟨before, dash, after, rfl, -, hbefore, -, hblank⟩ := hw
  obtain ⟨b, before, rfl⟩ := List.exists_cons_of_ne_nil hbefore
  exact ⟨b, before ++ dash ++ after, by simp,
    endsToken_of_isSpaceOrTab (hblank b List.mem_cons_self)⟩

/-- A spaced dash ends with a character that ends a token. -/
theorem exists_last_of_spacedDash : ∃ front a, w = front ++ [a] ∧ endsToken a = true := by
  obtain ⟨before, dash, after, rfl, -, -, hafter, hblank⟩ := hw
  obtain ⟨after, a, rfl⟩ := (List.eq_nil_or_concat' after).resolve_left hafter
  exact ⟨before ++ dash ++ after, a, by simp, endsToken_of_isSpaceOrTab (hblank a (by simp))⟩

/-- A spaced dash has no angle brackets. -/
theorem brackets_spacedDash : brackets w = [] := by
  obtain ⟨before, dash, after, rfl, hdash, -, -, hblank⟩ := hw
  rw [brackets, List.filter_eq_nil_iff]
  rintro c hc hangle
  have hends : isSpaceOrTab c = true ∨ endsToken c = false := by
    rw [List.mem_append, List.mem_append] at hc
    rcases hc with (hc | hc) | hc
    · exact Or.inl (hblank c (List.mem_append_left _ hc))
    · exact Or.inr ((token_of_mem_dashes dash hdash).2 c hc)
    · exact Or.inl (hblank c (List.mem_append_right _ hc))
  rw [isAngle, Bool.or_eq_true, beq_iff_eq, beq_iff_eq] at hangle
  rcases hangle with rfl | rfl <;> exact absurd hends (by decide)

end SpacedDash

namespace Dashed

variable {t u : Text}

/-- A character that belongs to no spaced dash was there before they were replaced. -/
theorem exists_append_cons {front' after' : Text} {c : Char} (hblank : c ≠ ' ') (hdash : c ≠ '–')
    (h : Dashed t (front' ++ c :: after')) :
    ∃ front after, t = front ++ c :: after ∧ Dashed front front' ∧ Dashed after after' := by
  generalize hu : front' ++ c :: after' = u at h
  induction h generalizing front' with
  | nil => simp at hu
  | @char t u d h ih =>
    cases front' with
    | nil =>
      cases hu
      exact ⟨[], t, rfl, .nil, h⟩
    | cons e front' =>
      obtain ⟨rfl, hrest⟩ := List.cons.inj hu
      obtain ⟨front, after, rfl, hfront, hafter⟩ := ih hrest
      exact ⟨e :: front, after, rfl, hfront.char e, hafter⟩
  | @dash w t u hw h ih =>
    match front', hu with
    | [], hu => exact absurd (List.cons.inj hu).1 hblank
    | [_], hu => exact absurd (List.cons.inj (List.cons.inj hu).2).1 hdash
    | [_, _], hu => exact absurd (List.cons.inj (List.cons.inj (List.cons.inj hu).2).2).1 hblank
    | _ :: _ :: _ :: front', hu =>
      cases hu
      obtain ⟨front, after, rfl, hfront, hafter⟩ := ih rfl
      exact ⟨w ++ front, after, by rw [List.append_assoc], .dash hw hfront, hafter⟩

/-- Replacing spaced dashes leaves the angle brackets of a text. -/
theorem brackets_eq (h : Dashed t u) : brackets t = brackets u := by
  induction h with
  | nil => rfl
  | char c _ ih =>
    unfold brackets at ih ⊢
    rw [List.filter_cons, List.filter_cons, ih]
  | @dash w t u hw _ ih =>
    calc brackets (w ++ t)
        = brackets w ++ brackets t := List.filter_append ..
      _ = brackets u := by rw [brackets_spacedDash hw, ih, List.nil_append]

/-- The rest of a token behind a place is left as it is. -/
theorem takeWhile_eq (h : Dashed t u) :
    (t.takeWhile fun c => !endsToken c) = u.takeWhile fun c => !endsToken c := by
  induction h with
  | nil => rfl
  | char c _ ih => rw [List.takeWhile_cons, List.takeWhile_cons, ih]
  | @dash w t u hw _ _ =>
    obtain ⟨b, w, rfl, hb⟩ := exists_first_of_spacedDash hw
    rw [List.cons_append, List.takeWhile_cons_of_neg (by simp [hb]),
      List.takeWhile_cons_of_neg (by decide)]

/-- The start of a token in front of a place is left as it is. -/
theorem takeWhile_reverse_eq (h : Dashed t u) :
    (t.reverse.takeWhile fun c => !endsToken c) = u.reverse.takeWhile fun c => !endsToken c := by
  -- the characters in front may belong to the token
  have held : ∀ w : Text, ((w ++ t).reverse.takeWhile fun c => !endsToken c)
      = (w ++ u).reverse.takeWhile fun c => !endsToken c := by
    induction h with
    | nil => exact fun _ => rfl
    | char c _ ih =>
      intro w
      have hjoined := ih (w ++ [c])
      rwa [List.append_assoc, List.append_assoc] at hjoined
    | @dash v t u hv _ ih =>
      intro w
      obtain ⟨v, a, rfl, ha⟩ := exists_last_of_spacedDash hv
      have hends : ∀ (front : Text) (a : Char) (t : Text), endsToken a = true →
          ((front ++ a :: t).reverse.takeWhile fun c => !endsToken c)
            = t.reverse.takeWhile fun c => !endsToken c := by
        intro front a t ha
        rw [List.reverse_append, List.reverse_cons, List.append_assoc]
        exact Text.takeWhile_append_cons (by simp [ha]) _ _
      calc ((w ++ (v ++ [a] ++ t)).reverse.takeWhile fun c => !endsToken c)
          = ((w ++ v ++ a :: t).reverse.takeWhile fun c => !endsToken c) := by simp
        _ = t.reverse.takeWhile fun c => !endsToken c := hends _ a t ha
        _ = u.reverse.takeWhile fun c => !endsToken c := ih []
        _ = ((w ++ [' ', '–'] ++ ' ' :: u).reverse.takeWhile fun c => !endsToken c) :=
          (hends _ ' ' u (by decide)).symm
        _ = _ := by simp
  exact held []

/-- Quotes that stay do so beside dashes that were replaced. -/
theorem quotesStay {skipMarkup : Bool} (h : Dashed t u) (ht : QuotesStay skipMarkup t) :
    QuotesStay skipMarkup u := by
  rintro front' c after' rfl hc
  have hother : c ≠ ' ' ∧ c ≠ '–' := by
    constructor <;> rintro rfl <;> cases hc
  obtain ⟨front, after, rfl, hfront, hafter⟩ := h.exists_append_cons hother.1 hother.2
  have htoken : tokenAround endsToken front'.reverse (c :: after')
      = tokenAround endsToken front.reverse (c :: after) := by
    rw [tokenAround, tokenAround, hfront.takeWhile_reverse_eq, (hafter.char c).takeWhile_eq]
  rw [htoken, ← isOpen_congr hfront.brackets_eq]
  exact ht front c after rfl hc

end Dashed

/-- **Typography a second time.**  A text that is typeset is left as it is when it is
typeset again. -/
theorem niceTypography_niceTypography (skipMarkup : Bool) (t : Text) :
    niceTypography skipMarkup (niceTypography skipMarkup t) = niceTypography skipMarkup t := by
  have hstay : QuotesStay skipMarkup (niceTypography skipMarkup t) :=
    (dashed_replaceSpacedHyphens _).quotesStay (quotesStay_smartenQuotes skipMarkup t)
  calc niceTypography skipMarkup (niceTypography skipMarkup t)
      = replaceSpacedHyphens (niceTypography skipMarkup t) := by
        rw [niceTypography, hstay.smartenQuotes_eq]
    _ = niceTypography skipMarkup t := replaceSpacedHyphens_replaceSpacedHyphens _

end MessageTemplate

/-
# Rewording between double brackets

Two templates may differ in what stands between some of their double brackets
and agree in everything else.  As long as no bracket is among what differs, the
brackets of both pair up alike: a body is read in one where a body is read in
the other (`Reworded.exists_bodyAux`), balanced texts stay balanced
(`Balanced.reworded`), and no placeholder starts in the second where none
starts in the first (`StartsPlaceholder.of_reworded`).  This holds even if
nothing is left between some brackets of the second.
-/
import Mathlib
import MessageTemplate.Proofs.Grammar

namespace MessageTemplate

/-! ## Names -/

/-- A text without brackets. -/
def IsBracketFree (w : Text) : Prop :=
  ∀ c ∈ w, isBracket c = false

/-- Whether a text has no brackets can be read off it. -/
instance (w : Text) : Decidable (IsBracketFree w) :=
  decidable_of_iff (w.any isBracket = false) (by simp [IsBracketFree])

/-- The bodies of placeholders that show a value: texts that are not empty, and
have neither brackets nor a separator. -/
structure IsName (w : Text) : Prop where
  ne_nil : w ≠ []
  bracketFree : IsBracketFree w
  unseparated : ¬ Placeholder.separator <:+: w

/-- A text without brackets is balanced. -/
theorem IsBracketFree.balanced {w : Text} (h : IsBracketFree w) : Balanced w := by
  induction w with
  | nil => exact .nil
  | cons c w ih =>
    obtain ⟨hc, hw⟩ := List.forall_mem_cons.1 h
    exact .char hc (ih hw)

/-- A text without brackets that holds a separator may be followed by brackets. -/
theorem bracketsBehindSeparator_append {front : Text} (hfree : IsBracketFree front)
    (hseparator : Placeholder.separator <:+: front) (t : Text) :
    BracketsBehindSeparator (front ++ t) := by
  intro before c after hsplit hc
  rcases List.append_eq_append_iff.1 hsplit with ⟨more, hbefore, -⟩ | ⟨inside, hfront, hrest⟩
  · rw [hbefore]
    exact hseparator.trans (List.prefix_append front more).isInfix
  · cases inside with
    | nil =>
      rw [List.append_nil] at hfront
      rwa [← hfront]
    | cons d inside =>
      -- the bracket would stand in front of the text
      rw [List.cons_append, List.cons.injEq] at hrest
      have hd := hfree d (by simp [hfront])
      rw [← hrest.1, hc] at hd
      cases hd

/-- A text without brackets that is not empty is the body of a placeholder. -/
theorem IsBracketFree.isBody {w : Text} (h : IsBracketFree w) (hne : w ≠ []) : IsBody w := by
  refine ⟨h.balanced, hne, ?_⟩
  intro before c after hsplit hc
  have hfree := h c (by simp [hsplit])
  rw [hc] at hfree
  cases hfree

theorem IsName.isBody {w : Text} (h : IsName w) : IsBody w :=
  h.bracketFree.isBody h.ne_nil

/-! ## Conditions -/

/-- A mark is not found exactly in the texts in which it does not stand. -/
theorem Text.cut_eq_none_iff {mark t : Text} : cut mark t = none ↔ ¬ mark <:+: t := by
  constructor
  · exact not_infix_of_cut_eq_none
  · intro habsent
    cases hcut : cut mark t with
    | none => rfl
    | some parts =>
      rw [eq_of_cut hcut] at habsent
      exact absurd (List.infix_append parts.1 mark parts.2) habsent

namespace Placeholder

variable {p : Placeholder} {shown : Text}

/-- A placeholder without a condition has no separator. -/
theorem isConditional_eq_false_iff : p.isConditional = false ↔ ¬ separator <:+: p.body := by
  rw [isConditional, conditionalText?, Option.isSome_map, Option.isSome_eq_false_iff,
    Option.isNone_iff_eq_none, Text.cut_eq_none_iff]

/-- A placeholder without a condition is written with its body as its name. -/
theorem writtenName_of_not_conditional (h : p.isConditional = false) : p.writtenName = p.body := by
  rw [writtenName, Text.cut_eq_none_iff.2 (isConditional_eq_false_iff.1 h)]
  rfl

/-- A conditional is cut into its name and its text. -/
theorem cut_body (h : p.conditionalText? = some shown) :
    Text.cut separator p.body = some (p.writtenName, shown) := by
  obtain ⟨⟨name, shown⟩, hcut, rfl⟩ := Option.map_eq_some_iff.1 h
  rw [writtenName, hcut]
  rfl

/-- The body of a conditional is its name, a separator and its text. -/
theorem body_eq (h : p.conditionalText? = some shown) :
    p.body = p.writtenName ++ separator ++ shown :=
  Text.eq_of_cut (cut_body h)

/-- A name, or a name and a separator, has no brackets. -/
theorem bracketFree_writtenName (hp : IsBody p.body) :
    IsBracketFree (p.writtenName ++ separator) := by
  have hseparator : IsBracketFree separator := by decide
  refine List.forall_mem_append.2 ⟨fun c hc => ?_, hseparator⟩
  exact Bool.eq_false_iff.2 (List.any_eq_false.1 (p.writtenName_any_isBracket.2 hp.brackets) c hc)

/-- The body of a placeholder without a condition is a name. -/
theorem isName_body (hp : IsBody p.body) (h : p.isConditional = false) : IsName p.body := by
  refine ⟨hp.ne_nil, ?_, isConditional_eq_false_iff.1 h⟩
  have hfree := (List.forall_mem_append.1 (bracketFree_writtenName hp)).1
  rwa [writtenName_of_not_conditional h] at hfree

end Placeholder

/-! ## Reworded texts -/

/-- Two texts that agree but for what stands between some double brackets, and
there are related. -/
inductive Reworded (R : Text → Text → Prop) : Text → Text → Prop
  | nil : Reworded R [] []
  | char (c : Char) {t t' : Text} : Reworded R t t' → Reworded R (c :: t) (c :: t')
  | word {w w' t t' : Text} : R w w' → Reworded R t t' →
      Reworded R ('(' :: '(' :: (w ++ ')' :: ')' :: t)) ('(' :: '(' :: (w' ++ ')' :: ')' :: t'))

namespace Reworded

variable {R : Text → Text → Prop} {t t' u u' : Text}

/-- A text agrees with itself, in front of texts that agree. -/
theorem append_left (w : Text) (h : Reworded R t t') : Reworded R (w ++ t) (w ++ t') := by
  induction w with
  | nil => exact h
  | cons c w ih => exact char c ih

theorem append (h : Reworded R t t') (hu : Reworded R u u') : Reworded R (t ++ u) (t' ++ u') := by
  induction h with
  | nil => exact hu
  | char c _ ih => exact char c ih
  | word hw _ ih => simpa using word hw ih

theorem symm (h : Reworded R t t') : Reworded (fun w w' => R w' w) t' t := by
  induction h with
  | nil => exact nil
  | char c _ ih => exact char c ih
  | word hw _ ih => exact word hw ih

theorem of_nil (h : Reworded R [] t') : t' = [] := by
  cases h
  rfl

/-- A character that opens no bracket stays. -/
theorem of_cons {c : Char} (hc : c ≠ '(') (h : Reworded R (c :: t) t') :
    ∃ u, t' = c :: u ∧ Reworded R t u := by
  cases h with
  | char _ h => exact ⟨_, rfl, h⟩
  | word _ _ => exact absurd rfl hc

/-- A text without brackets stays. -/
theorem of_bracketFree_append {w : Text} (hw : IsBracketFree w) (h : Reworded R (w ++ t) t') :
    ∃ u, t' = w ++ u ∧ Reworded R t u := by
  induction w generalizing t' with
  | nil => exact ⟨t', rfl, h⟩
  | cons c w ih =>
    obtain ⟨hc, hfree⟩ := List.forall_mem_cons.1 hw
    obtain ⟨v, rfl, hv⟩ := h.of_cons (by rintro rfl; cases hc)
    obtain ⟨u, rfl, hu⟩ := ih hfree hv
    exact ⟨u, rfl, hu⟩

end Reworded

/-! ## Reading bodies -/

/-- A character that is no bracket is read over. -/
theorem bodyAux_cons_of_not_bracket {c : Char} (hc : isBracket c = false) (depth : Nat)
    (before t : Text) : bodyAux depth before (c :: t) = bodyAux depth (c :: before) t := by
  simpa using bodyAux_balanced (Balanced.char hc .nil) depth before t

/-- A bracket that stands by itself ends the reading. -/
theorem bodyAux_lone {c : Char} (hc : isBracket c = true) {t : Text} (ht : t.head? ≠ some c)
    (depth : Nat) (before : Text) : bodyAux depth before (c :: t) = none := by
  have hne : ∀ rest, t ≠ c :: rest := by
    rintro rest rfl
    exact ht rfl
  rw [bodyAux.eq_4, if_pos hc]
  · rintro rest rfl hrest
    exact hne rest hrest
  · rintro rest - rfl hrest
    exact hne rest hrest
  · rintro n rest - rfl hrest
    exact hne rest hrest

/-- What two related words may not have: a bracket. -/
def RelatesBracketFree (R : Text → Text → Prop) : Prop :=
  ∀ w w', R w w' → IsBracketFree w ∧ IsBracketFree w'

/-- A word without brackets is read over together with those around it. -/
theorem bodyAux_word {w : Text} (hw : IsBracketFree w) (depth : Nat) (before t : Text) :
    ∃ before', bodyAux depth before ('(' :: '(' :: (w ++ ')' :: ')' :: t))
      = bodyAux depth before' t := by
  have hread := bodyAux_balanced (hw.balanced.nest .nil) depth before t
  rw [List.cons_append, List.cons_append, List.append_assoc] at hread
  exact ⟨_, hread⟩

/-- Behind a word without brackets no opening bracket is the first. -/
theorem head?_bracketFree_append {w : Text} (hw : IsBracketFree w) {t : Text} :
    (w ++ ')' :: t).head? ≠ some '(' := by
  cases w with
  | nil => simp
  | cons c w =>
    have hc := hw c List.mem_cons_self
    rintro hhead
    cases hhead
    cases hc

/-- **Reading.**  Where a body is read in one text, one is read in a reworded
text, and what follows is reworded. -/
theorem Reworded.exists_bodyAux {R : Text → Text → Prop} (hR : RelatesBracketFree R)
    {t t' : Text} (h : Reworded R t t') {depth : Nat} {before body rest : Text}
    (hread : bodyAux depth before t = some (body, rest)) (before' : Text) :
    ∃ body' rest', bodyAux depth before' t' = some (body', rest') ∧ Reworded R rest rest' := by
  induction hn : t.length using Nat.strong_induction_on generalizing t t' depth before before' with
  | _ n ih =>
    cases h with
    | nil =>
      rw [bodyAux] at hread
      cases hread
    | @word w w' t t' hw h =>
      obtain ⟨hfree, hfree'⟩ := hR w w' hw
      obtain ⟨front, hfront⟩ := bodyAux_word hfree depth before t
      obtain ⟨front', hfront'⟩ := bodyAux_word hfree' depth before' t'
      rw [hfront] at hread
      rw [hfront']
      refine ih t.length ?_ h hread front' rfl
      simp at hn
      omega
    | @char c t t' h =>
      have hshorter : t.length < n := by
        rw [← hn, List.length_cons]
        omega
      cases hc : isBracket c with
      | false =>
        rw [bodyAux_cons_of_not_bracket hc] at hread ⊢
        exact ih t.length hshorter h hread (c :: before') rfl
      | true =>
        -- a bracket is read with the one behind it, which is the same in both texts
        by_cases hpair : t.head? = some c
        · have hbracket : c = '(' ∨ c = ')' := by simpa [isBracket] using hc
          rcases hbracket with rfl | rfl
          · cases h with
            | nil => cases hpair
            | @char d t t' h =>
              cases hpair
              rw [bodyAux] at hread ⊢
              refine ih t.length ?_ h hread _ rfl
              rw [List.length_cons] at hshorter
              omega
            | @word w w' t t' hw h =>
              -- the second bracket of the three is taken, and the third stands by itself
              rw [bodyAux, bodyAux_lone rfl (head?_bracketFree_append (hR w w' hw).1)] at hread
              cases hread
          · obtain ⟨t, rfl⟩ : ∃ rest, t = ')' :: rest := by
              cases t with
              | nil => cases hpair
              | cons d t => cases hpair; exact ⟨t, rfl⟩
            obtain ⟨u, rfl, hu⟩ := h.of_cons (by decide)
            cases depth with
            | zero =>
              rw [bodyAux] at hread ⊢
              cases hread
              exact ⟨_, u, rfl, hu⟩
            | succ depth =>
              rw [bodyAux] at hread ⊢
              refine ih t.length ?_ hu hread _ rfl
              rw [List.length_cons] at hshorter
              omega
        · rw [bodyAux_lone hc hpair] at hread
          cases hread

/-! ## Balanced texts and placeholders -/

section

variable {R : Text → Text → Prop} (hR : RelatesBracketFree R)
include hR

/-- Rewording keeps a text balanced. -/
theorem Balanced.reworded {t t' : Text} (ht : Balanced t) (h : Reworded R t t') : Balanced t' := by
  have hclosed : Reworded R (t ++ ')' :: ')' :: []) (t' ++ ')' :: ')' :: []) :=
    h.append (.char _ (.char _ .nil))
  have hread : bodyAux 0 [] (t ++ ')' :: ')' :: []) = some (t, []) :=
    bodyAux_eq_some_iff.2 ⟨rfl, ht⟩
  obtain ⟨body, rest, hread', hrest⟩ := hclosed.exists_bodyAux hR hread []
  rw [hrest.of_nil] at hread'
  obtain ⟨hsplit, hbody⟩ := bodyAux_eq_some_iff.1 hread'
  rw [List.append_cancel_right hsplit]
  exact hbody

/-- A text that goes on with a body and its closing pair goes on with one when
it is reworded. -/
theorem exists_isBody_of_reworded {t body rest : Text} (hbody : IsBody body)
    (h : Reworded R (body ++ ')' :: ')' :: rest) t) :
    ∃ body' rest', t = body' ++ ')' :: ')' :: rest' ∧ IsBody body' := by
  let p : Placeholder := ⟨body⟩
  cases hp : p.conditionalText? with
  | none =>
    -- without brackets the body stays as it is
    have hname : IsName p.body := by
      apply Placeholder.isName_body hbody
      rw [Placeholder.isConditional, hp]
      rfl
    obtain ⟨u, rfl, hu⟩ := h.of_bracketFree_append hname.bracketFree
    obtain ⟨v, rfl, hv⟩ := hu.of_cons (by decide)
    obtain ⟨w, rfl, -⟩ := hv.of_cons (by decide)
    exact ⟨body, w, rfl, hbody⟩
  | some shown =>
    -- otherwise its name and separator stay, and reading goes on behind them
    let front := p.writtenName ++ Placeholder.separator
    have hfront : IsBracketFree front := Placeholder.bracketFree_writtenName hbody
    have hsplit : body = front ++ shown := Placeholder.body_eq hp
    have hread : bodyAux 0 [] (body ++ ')' :: ')' :: rest) = some (body, rest) :=
      bodyAux_eq_some_iff.2 ⟨rfl, hbody.balanced⟩
    rw [hsplit, List.append_assoc] at h
    obtain ⟨u, rfl, hu⟩ := h.of_bracketFree_append hfront
    rw [hsplit, List.append_assoc, bodyAux_balanced hfront.balanced] at hread
    obtain ⟨body', rest', hread', -⟩ := hu.exists_bodyAux hR hread (front.reverse ++ [])
    obtain ⟨w, hbody', -⟩ := closing_of_bodyAux hread'
    rw [← bodyAux_balanced hfront.balanced] at hread'
    obtain ⟨hwhole, hbalanced⟩ := bodyAux_eq_some_iff.1 hread'
    refine ⟨body', rest', hwhole, hbalanced, ?_, ?_⟩
    · rw [hbody']
      simp [front, Placeholder.separator]
    · rw [hbody', List.append_nil, List.reverse_reverse]
      exact bracketsBehindSeparator_append hfront (List.suffix_append _ _).isInfix w

/-- **Placeholders.**  Where a placeholder starts in a reworded text, one starts
in the text it was made from, if no word of that is empty. -/
theorem StartsPlaceholder.of_reworded {t t' : Text} (hne : ∀ w w', R w w' → w ≠ [])
    (h : Reworded R t t') (hstart : StartsPlaceholder t') : StartsPlaceholder t := by
  obtain ⟨p, rest, hsplit, hp⟩ := hstart
  rw [p.source_append] at hsplit
  have hflip : RelatesBracketFree fun w w' => R w' w := fun w w' hw => (hR w' w hw).symm
  cases h with
  | nil => cases hsplit
  | @word w w' t t' hw h =>
    -- the brackets around a word are those of a placeholder
    have hbody := (hR w w' hw).1.isBody (hne w w' hw)
    exact ⟨⟨w⟩, t, (Placeholder.source_append ⟨w⟩ t).symm, hbody⟩
  | @char c t t' h =>
    rw [List.cons.injEq] at hsplit
    obtain ⟨rfl, hsplit⟩ := hsplit
    cases h with
    | nil => cases hsplit
    | @word w w' t t' hw h =>
      -- a body would start with the second bracket of the word, which stands by itself
      rw [List.cons.injEq] at hsplit
      have hread := bodyAux_eq_some_iff.2 ⟨hsplit.2, hp.balanced⟩
      rw [bodyAux_lone rfl (head?_bracketFree_append (hR w w' hw).2)] at hread
      cases hread
    | @char c t t' h =>
      rw [List.cons.injEq] at hsplit
      obtain ⟨rfl, rfl⟩ := hsplit
      obtain ⟨body, rest', rfl, hbody⟩ := exists_isBody_of_reworded hflip hp h.symm
      exact ⟨⟨body⟩, rest', (Placeholder.source_append ⟨body⟩ rest').symm, hbody⟩

end

end MessageTemplate

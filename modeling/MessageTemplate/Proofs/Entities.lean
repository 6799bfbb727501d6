/-
# Texts with entities

Reading entities gives back the text that was written with them.  Conversely, a
text that is read and written again is as it was only if it is as texts in markup
are: it has no angle brackets, and an entity at each ampersand (`IsEscaped`).
These are all the texts that are written in markup
(`isEscaped_iff_exists_escape`).

Entities can also be read by one replacement in the whole text after another,
first of those of the angle brackets and last of that of the ampersand
(`unescapeInTurn`).  No replacement makes an entity for a later one, since what it
writes is in the name of no entity (`prefix_replaceEntity_iff`).  So this is the
reading in one pass (`unescapeInTurn_eq_unescape`).

Both go through a text with entities by `entity_induction`.
-/
import Mathlib
import MessageTemplate.Proofs.DisplayedText

namespace MessageTemplate

/-! ## Replacing a mark -/

namespace Text

/-- A text in which each occurrence of a mark, which is not empty, is replaced.
The text is searched from its front, and on behind each occurrence. -/
def replace (mark new : Text) : Text → Text
  | [] => []
  | c :: rest =>
    if mark.isPrefixOf (c :: rest) then new ++ replace mark new (rest.drop (mark.length - 1))
    else c :: replace mark new rest
termination_by t => t.length

variable {mark new : Text}

/-- A mark at the front is replaced. -/
theorem replace_mark_append (hmark : mark ≠ []) (t : Text) :
    replace mark new (mark ++ t) = new ++ replace mark new t := by
  obtain ⟨c, rest, rfl⟩ := List.exists_cons_of_ne_nil hmark
  have hfront : (c :: rest).isPrefixOf (c :: (rest ++ t)) = true :=
    List.isPrefixOf_iff_prefix.2 (List.prefix_append (c :: rest) t)
  rw [List.cons_append, replace, if_pos hfront, List.length_cons, Nat.add_sub_cancel,
    List.drop_left]

/-- A character at which no mark starts is kept. -/
theorem replace_cons {c : Char} {t : Text} (h : ¬ mark <+: c :: t) :
    replace mark new (c :: t) = c :: replace mark new t := by
  rw [replace, if_neg fun hfront => h (List.isPrefixOf_iff_prefix.1 hfront)]

end Text

namespace Html

/-! ## Entities at the front -/

/-- The characters that open or close markup. -/
def markupCharacters : Text :=
  "&<>".toList

/-- The entities are those of the characters that open or close markup. -/
theorem mem_markupEntities_iff {e : Text} :
    e ∈ markupEntities ↔ ∃ c ∈ markupCharacters, entity c = e := by
  have htable : markupEntities = markupCharacters.map entity := by decide
  rw [htable, List.mem_map]

theorem entity_mem_markupEntities {c : Char} (hc : c ∈ markupCharacters) :
    entity c ∈ markupEntities :=
  mem_markupEntities_iff.2 ⟨c, hc, rfl⟩

/-- An entity is an ampersand and a name without characters that open or close markup. -/
theorem exists_name_of_mem_markupEntities {e : Text} (h : e ∈ markupEntities) :
    ∃ name, e = '&' :: name ∧ ∀ c ∈ name, c ∉ markupCharacters := by
  have htable : ∀ e ∈ markupEntities,
      e = '&' :: e.tail ∧ (e.tail.all fun c => decide (c ∉ markupCharacters)) = true := by decide
  obtain ⟨hhead, hname⟩ := htable e h
  exact ⟨e.tail, hhead, fun c hc => of_decide_eq_true (List.all_eq_true.1 hname c hc)⟩

/-- An entity starts at the front of a text. -/
def StartsEntity (t : Text) : Prop :=
  ∃ e ∈ markupEntities, e <+: t

/-- Entities start with an ampersand. -/
theorem not_startsEntity_cons {c : Char} (hc : c ≠ '&') (t : Text) : ¬ StartsEntity (c :: t) := by
  rintro ⟨e, he, hfront⟩
  obtain ⟨name, rfl, -⟩ := exists_name_of_mem_markupEntities he
  exact hc (List.cons_prefix_cons.1 hfront).1.symm

/-- A text is empty, or starts with an entity, or starts with a character that is
not the start of one. -/
theorem entity_induction {motive : Text → Prop} (nil : motive [])
    (markup : ∀ c ∈ markupCharacters, ∀ t, motive t → motive (entity c ++ t))
    (single : ∀ c t, ¬ StartsEntity (c :: t) → motive t → motive (c :: t)) (t : Text) :
    motive t := by
  induction hlength : t.length using Nat.strong_induction_on generalizing t with
  | _ n ih =>
    cases t with
    | nil => exact nil
    | cons c rest =>
      by_cases hstarts : StartsEntity (c :: rest)
      · obtain ⟨e, he, behind, hbehind⟩ := hstarts
        obtain ⟨d, hd, rfl⟩ := mem_markupEntities_iff.1 he
        have hpos := List.length_pos_of_ne_nil (entity_ne_nil d)
        rw [← hbehind, List.length_append] at hlength
        rw [← hbehind]
        exact markup d hd behind (ih behind.length (by omega) behind rfl)
      · rw [List.length_cons] at hlength
        exact single c rest hstarts (ih rest.length (by omega) rest rfl)

/-- A character that is not the start of an entity is read as itself. -/
theorem unescape_cons {c : Char} {t : Text} (h : ¬ StartsEntity (c :: t)) :
    unescape (c :: t) = c :: unescape t := by
  have hnone : ∀ e ∈ markupEntities, ∀ rest, c :: t ≠ e ++ rest :=
    fun e he rest ht => h ⟨e, he, ht ▸ List.prefix_append e rest⟩
  rw [unescape, unescapeAux.eq_4, unescapeAux_eq]
  · rfl
  · rintro rest rfl rfl
    exact hnone "&amp;".toList (by decide) rest rfl
  · rintro rest rfl rfl
    exact hnone "&lt;".toList (by decide) rest rfl
  · rintro rest rfl rfl
    exact hnone "&gt;".toList (by decide) rest rfl

/-! ## One replacement after another -/

/-- A text in which the entity of a character is replaced by the character. -/
def replaceEntity (c : Char) (t : Text) : Text :=
  Text.replace (entity c) [c] t

/-- A text in which the entities are replaced by the characters they stand for, the
ampersand being the last. -/
def unescapeInTurn (t : Text) : Text :=
  replaceEntity '&' (replaceEntity '>' (replaceEntity '<' t))

@[simp] theorem replaceEntity_nil (c : Char) : replaceEntity c [] = [] := by
  rw [replaceEntity, Text.replace]

/-- The entity itself is replaced. -/
theorem replaceEntity_entity (c : Char) (t : Text) :
    replaceEntity c (entity c ++ t) = c :: replaceEntity c t :=
  Text.replace_mark_append (entity_ne_nil c) t

/-- A character at which the entity does not start is kept. -/
theorem replaceEntity_cons_of_not_starts {c d : Char} {t : Text} (h : ¬ entity c <+: d :: t) :
    replaceEntity c (d :: t) = d :: replaceEntity c t :=
  Text.replace_cons h

section

variable {c : Char} (hc : c ∈ markupCharacters)

include hc

/-- A character that is not the start of any entity is kept. -/
theorem replaceEntity_cons {d : Char} {t : Text} (h : ¬ StartsEntity (d :: t)) :
    replaceEntity c (d :: t) = d :: replaceEntity c t :=
  replaceEntity_cons_of_not_starts fun hfront => h ⟨_, entity_mem_markupEntities hc, hfront⟩

/-- A word without characters that open or close markup is kept. -/
theorem replaceEntity_append {w : Text} (hw : ∀ d ∈ w, d ∉ markupCharacters) (t : Text) :
    replaceEntity c (w ++ t) = w ++ replaceEntity c t := by
  induction w with
  | nil => rfl
  | cons d w ih =>
    have hd : d ≠ '&' := by
      rintro rfl
      exact hw '&' List.mem_cons_self (by decide)
    rw [List.cons_append, replaceEntity_cons hc (not_startsEntity_cons hd _),
      ih fun d hd => hw d (List.mem_cons_of_mem _ hd), List.cons_append]

/-- The other entities are kept. -/
theorem replaceEntity_entity_of_ne {d : Char} (hd : d ∈ markupCharacters)
    (hne : entity c ≠ entity d) (t : Text) :
    replaceEntity c (entity d ++ t) = entity d ++ replaceEntity c t := by
  have hcmem := entity_mem_markupEntities hc
  have hdmem := entity_mem_markupEntities hd
  have hother : ¬ entity c <+: entity d ++ t := by
    have htable : ∀ e ∈ markupEntities, ∀ f ∈ markupEntities, e ≠ f → ¬ e <+: f := by decide
    intro hfront
    rcases List.prefix_or_prefix_of_prefix hfront (List.prefix_append (entity d) t) with h | h
    · exact htable _ hcmem _ hdmem hne h
    · exact htable _ hdmem _ hcmem hne.symm h
  obtain ⟨name, hname, hplain⟩ := exists_name_of_mem_markupEntities hdmem
  rw [hname, List.cons_append] at hother ⊢
  rw [replaceEntity_cons_of_not_starts hother, replaceEntity_append hc hplain, List.cons_append]

/-- **What is written.**  A word without characters that open or close markup is at
the front of a text after a replacement only where it was before. -/
theorem prefix_replaceEntity_iff {w : Text} (hw : ∀ d ∈ w, d ∉ markupCharacters) (t : Text) :
    w <+: replaceEntity c t ↔ w <+: t := by
  induction w generalizing t with
  | nil => exact iff_of_true List.nil_prefix List.nil_prefix
  | cons d w ih =>
    have hrest : ∀ d ∈ w, d ∉ markupCharacters := fun d hd => hw d (List.mem_cons_of_mem _ hd)
    cases t with
    | nil => rw [replaceEntity_nil]
    | cons d' t =>
      by_cases hfront : entity c <+: d' :: t
      · -- where the entity stood, neither its ampersand nor what was written is in the word
        obtain ⟨name, hname, -⟩ :=
          exists_name_of_mem_markupEntities (entity_mem_markupEntities hc)
        obtain ⟨behind, hbehind⟩ := hfront
        rw [← hbehind, replaceEntity_entity, hname, List.cons_append, List.cons_prefix_cons,
          List.cons_prefix_cons]
        refine iff_of_false (fun h => ?_) fun h => ?_
        · exact hw d List.mem_cons_self (h.1 ▸ hc)
        · exact hw d List.mem_cons_self (h.1 ▸ by decide)
      · rw [replaceEntity_cons_of_not_starts hfront, List.cons_prefix_cons,
          List.cons_prefix_cons, ih hrest]

/-- A replacement in what follows makes no character the start of an entity. -/
theorem not_startsEntity_replaceEntity {d : Char} {t : Text} (h : ¬ StartsEntity (d :: t)) :
    ¬ StartsEntity (d :: replaceEntity c t) := by
  rintro ⟨e, he, hfront⟩
  obtain ⟨name, rfl, hname⟩ := exists_name_of_mem_markupEntities he
  rw [List.cons_prefix_cons, prefix_replaceEntity_iff hc hname] at hfront
  exact h ⟨'&' :: name, he, List.cons_prefix_cons.2 hfront⟩

end

/-- An entity at the front is read as its character, in turn as well. -/
theorem unescapeInTurn_entity {c : Char} (hc : c ∈ markupCharacters) (t : Text) :
    unescapeInTurn (entity c ++ t) = c :: unescapeInTurn t := by
  have hamp : '&' ∈ markupCharacters := by decide
  have hlt : '<' ∈ markupCharacters := by decide
  have hgt : '>' ∈ markupCharacters := by decide
  have hcases : c = '&' ∨ c = '<' ∨ c = '>' := by simpa [markupCharacters] using hc
  unfold unescapeInTurn
  rcases hcases with rfl | rfl | rfl
  · rw [replaceEntity_entity_of_ne hlt hamp (by decide),
      replaceEntity_entity_of_ne hgt hamp (by decide), replaceEntity_entity]
  · rw [replaceEntity_entity, replaceEntity_cons hgt (not_startsEntity_cons (by decide) _),
      replaceEntity_cons hamp (not_startsEntity_cons (by decide) _)]
  · rw [replaceEntity_entity_of_ne hlt hgt (by decide), replaceEntity_entity,
      replaceEntity_cons hamp (not_startsEntity_cons (by decide) _)]

/-- A character that is not the start of an entity is read as itself, in turn as well. -/
theorem unescapeInTurn_cons {c : Char} {t : Text} (h : ¬ StartsEntity (c :: t)) :
    unescapeInTurn (c :: t) = c :: unescapeInTurn t := by
  have hlt : '<' ∈ markupCharacters := by decide
  have hgt : '>' ∈ markupCharacters := by decide
  have hafter := not_startsEntity_replaceEntity hlt h
  rw [unescapeInTurn, replaceEntity_cons hlt h, replaceEntity_cons hgt hafter,
    replaceEntity_cons (by decide) (not_startsEntity_replaceEntity hgt hafter), unescapeInTurn]

/-- **In turn.**  Entities are read in one pass as by one replacement after another. -/
theorem unescapeInTurn_eq_unescape (t : Text) : unescapeInTurn t = unescape t := by
  induction t using entity_induction with
  | nil => simp [unescapeInTurn]
  | markup c hc t ih =>
    rw [unescapeInTurn_entity hc, unescape_entity c (by simpa [markupCharacters] using hc), ih]
  | single c t h ih => rw [unescapeInTurn_cons h, unescape_cons h, ih]

/-- With the ampersand first, an entity would be read twice. -/
example :
    unescapeInTurn "&amp;lt;".toList = "&lt;".toList
      ∧ replaceEntity '<' (replaceEntity '&' "&amp;lt;".toList) = "<".toList := by
  cbv

/-! ## Texts written in markup -/

/-- A text is as it is written in markup: it has no angle brackets, and at each
ampersand an entity starts. -/
structure IsEscaped (t : Text) : Prop where
  isPlain : IsPlain t
  startsEntity : ∀ rest, '&' :: rest <:+ t → StartsEntity ('&' :: rest)

/-- The rest of such a text is one. -/
theorem IsEscaped.of_suffix {s t : Text} (h : IsEscaped t) (hs : s <:+ t) : IsEscaped s :=
  ⟨fun c hc => h.isPlain c (hs.subset hc), fun rest hrest => h.startsEntity rest (hrest.trans hs)⟩

/-- What is written in markup is such a text. -/
theorem isEscaped_escape (s : Text) : IsEscaped (escape s) := by
  refine ⟨isPlain_escape s, fun rest hrest => ?_⟩
  obtain ⟨u, hu⟩ := exists_escape_of_suffix hrest
  cases u with
  | nil => cases hu
  | cons c u =>
    rw [hu, escape_cons]
    rcases entity_eq_singleton_or_mem c with hself | hmem
    · rw [escape_cons, hself] at hu
      obtain rfl : '&' = c := (List.cons.inj hu).1
      cases hself
    · exact ⟨entity c, hmem, List.prefix_append _ _⟩

/-- **Image.**  The texts written in markup are those without angle brackets that
have an entity at each ampersand. -/
theorem isEscaped_iff_exists_escape {t : Text} : IsEscaped t ↔ ∃ s, escape s = t := by
  constructor
  · induction t using entity_induction with
    | nil => exact fun _ => ⟨[], rfl⟩
    | markup c hc t ih =>
      intro h
      obtain ⟨s, rfl⟩ := ih (h.of_suffix (List.suffix_append _ _))
      exact ⟨c :: s, rfl⟩
    | single c t hc ih =>
      intro h
      obtain ⟨s, rfl⟩ := ih (h.of_suffix (List.suffix_cons _ _))
      have hamp : c ≠ '&' := by
        rintro rfl
        exact hc (h.startsEntity _ (List.suffix_refl _))
      obtain ⟨hlt, hgt⟩ := isAngle_eq_false_iff.1 (h.isPlain c List.mem_cons_self)
      exact ⟨c :: s, by rw [escape_cons, entity_of_ne hamp hlt hgt]; rfl⟩
  · rintro ⟨s, rfl⟩
    exact isEscaped_escape s

/-- **Reading entities.**  The entities are read as if each kind were replaced in the
whole text, the angle brackets first.  Reading gives back what was written; and what
is read is written as it was exactly if it had no angle brackets and an entity at
each ampersand. -/
theorem unescape_inverts_escape (t : Text) :
    unescapeInTurn t = unescape t
      ∧ unescape (escape t) = t
      ∧ (escape (unescape t) = t ↔ IsEscaped t) := by
  refine ⟨unescapeInTurn_eq_unescape t, unescape_escape t, fun hself => ?_, fun h => ?_⟩
  · rw [← hself]
    exact isEscaped_escape (unescape t)
  · obtain ⟨s, rfl⟩ := isEscaped_iff_exists_escape.1 h
    rw [unescape_escape]

end Html

end MessageTemplate

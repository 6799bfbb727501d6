/-
# Entities

The three characters that open or close markup are written as entities:
`&amp;`, `&lt;` and `&gt;`.  `Html.escape` writes them, `Html.unescape` reads
them back, and `Html.escapeAttribute` also writes the double quote as an
entity, since it would end an attribute.
-/
import MessageTemplate.Text.Basic

namespace MessageTemplate.Html

/-! ## Writing entities -/

/-- How one character is written in markup. -/
def entity (c : Char) : Text :=
  if c = '&' then "&amp;".toList
  else if c = '<' then "&lt;".toList
  else if c = '>' then "&gt;".toList
  else [c]

/-- A text as it is written in markup. -/
def escape (t : Text) : Text :=
  t.flatMap entity

@[simp] theorem escape_nil : escape [] = [] := rfl

@[simp] theorem escape_cons (c : Char) (t : Text) : escape (c :: t) = entity c ++ escape t := rfl

@[simp] theorem escape_append (t u : Text) : escape (t ++ u) = escape t ++ escape u :=
  List.flatMap_append

/-- How one character is written inside a quoted attribute. -/
def attributeEntity (c : Char) : Text :=
  if c = '"' then "&quot;".toList else entity c

/-- A text as it is written inside a quoted attribute. -/
def escapeAttribute (t : Text) : Text :=
  t.flatMap attributeEntity

/-- A text in which each line break is the tag that breaks a line. -/
def breakLines (t : Text) : Text :=
  t.flatMap fun c => if c = '\n' then "<br>".toList else [c]

/-! ## Reading entities -/

/-- Worker of `unescape`; `out` holds what was read so far, latest first. -/
def unescapeAux (out : Text) : Text → Text
  | '&' :: 'a' :: 'm' :: 'p' :: ';' :: rest => unescapeAux ('&' :: out) rest
  | '&' :: 'l' :: 't' :: ';' :: rest => unescapeAux ('<' :: out) rest
  | '&' :: 'g' :: 't' :: ';' :: rest => unescapeAux ('>' :: out) rest
  | c :: rest => unescapeAux (c :: out) rest
  | [] => out.reverse

/-- A text in which each of the three entities is the character it stands for. -/
def unescape (t : Text) : Text :=
  unescapeAux [] t

/-- What was read before stays in front. -/
theorem unescapeAux_eq (out t : Text) : unescapeAux out t = out.reverse ++ unescape t := by
  have move : ∀ (out t more : Text),
      unescapeAux (out ++ more) t = more.reverse ++ unescapeAux out t := by
    intro out t
    induction out, t using unescapeAux.induct with
    | case1 out rest ih => intro more; simpa [unescapeAux] using ih more
    | case2 out rest ih => intro more; simpa [unescapeAux] using ih more
    | case3 out rest ih => intro more; simpa [unescapeAux] using ih more
    | case4 out c rest h1 h2 h3 ih =>
      intro more
      rw [unescapeAux.eq_4 _ _ _ h1 h2 h3, unescapeAux.eq_4 _ _ _ h1 h2 h3]
      exact ih more
    | case5 out => intro more; simp [unescapeAux]
  simpa [unescape] using move [] t out

@[simp] theorem unescape_nil : unescape [] = [] := rfl

/-- An entity at the front is read as its character. -/
theorem unescape_entity (c : Char) (hc : c = '&' ∨ c = '<' ∨ c = '>') (t : Text) :
    unescape (entity c ++ t) = c :: unescape t := by
  rcases hc with rfl | rfl | rfl <;>
    simp [entity, unescape, unescapeAux, unescapeAux_eq ['&'], unescapeAux_eq ['<'],
      unescapeAux_eq ['>']]

/-- A character that opens no entity is read as itself. -/
theorem unescape_cons_of_ne {c : Char} (hc : c ≠ '&') (t : Text) :
    unescape (c :: t) = c :: unescape t := by
  rw [unescape, unescapeAux.eq_4 _ _ _ (by simp_all) (by simp_all) (by simp_all),
    unescapeAux_eq]
  simp

end MessageTemplate.Html

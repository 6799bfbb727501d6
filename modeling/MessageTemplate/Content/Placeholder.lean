/-
# Placeholders

A placeholder is what stands between a pair of double brackets.  Its name
selects a value; behind the separator `??` it may hold a conditional text,
which is shown when the value is the flag `true`.
-/
import MessageTemplate.Text.Blank

namespace MessageTemplate

/-- What stands between the double brackets of a marker in a template. -/
structure Placeholder where
  body : Text
  deriving DecidableEq, Repr

namespace Placeholder

/-- The mark between the name and the conditional text. -/
def separator : Text := "??".toList

/-- The name as written, in front of the separator if there is one. -/
def writtenName (p : Placeholder) : Text :=
  ((Text.cut separator p.body).map Prod.fst).getD p.body

/-- The name under which the value is looked up. -/
def name (p : Placeholder) : Text :=
  p.writtenName.trim

/-- The text behind the separator, which may hold placeholders of its own. -/
def conditionalText? (p : Placeholder) : Option Text :=
  (Text.cut separator p.body).map Prod.snd

/-- Whether there is a conditional text. -/
def isConditional (p : Placeholder) : Bool :=
  p.conditionalText?.isSome

/-- The placeholder as it is written in a template. -/
def source (p : Placeholder) : Text :=
  '(' :: '(' :: p.body ++ [')', ')']

/-- A conditional text is shorter than the body that holds it. -/
theorem length_conditionalText?_lt {p : Placeholder} {t : Text}
    (h : p.conditionalText? = some t) : t.length < p.body.length := by
  obtain ⟨⟨before, after⟩, hcut, rfl⟩ := Option.map_eq_some_iff.1 h
  rw [Text.eq_of_cut hcut]
  have : separator.length = 2 := by decide
  simp only [List.length_append]
  omega

end Placeholder

/-- Whether a character is a round bracket. -/
def isBracket (c : Char) : Bool :=
  c == '(' || c == ')'

/-- Whether a body with balanced brackets makes a placeholder: it is not empty
and no bracket stands in its name. -/
def Placeholder.isValid (p : Placeholder) : Bool :=
  !p.body.isEmpty && !p.writtenName.any isBracket

end MessageTemplate

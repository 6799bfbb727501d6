/-
# Names of variables

The name of an environment variable of the program is a path into its
settings: `RENDER__RENDER__SHOW_PREFIX` leads to the member `show_prefix` of
the member `render`.  Case does not matter.  A double underscore stands for a
dot, which may also be written, and a position stands in square brackets.  What
reads as no path, a position beyond 64 bits among it, is no setting.
-/
import MessageTemplate.Settings.Tree

namespace MessageTemplate

/-! ## Small letters -/

/-- A character in small letters.  The Kelvin sign is the one character beyond
the basic range whose small letter may stand in a name that matters. -/
def smallLetter (c : Char) : Char :=
  if c = '\u212a' then 'k' else c.toLower

/-- A text in small letters. -/
def smallLetters (t : Text) : Text :=
  t.map smallLetter

/-! ## Paths -/

namespace Path

/-- Whether a character may stand in the name of a member. -/
def isNameCharacter (c : Char) : Bool :=
  c.isAlphanum || c == '_' || c == '-' || c == ' '

/-- A text without the spaces and tabs at its front. -/
def dropBlanks (t : Text) : Text :=
  t.dropWhile fun c => c == ' ' || c == '\t'

/-- The sign at the front of a numeral: whether there is a minus, and what
stands behind it. -/
def splitSign : Text → Bool × Text
  | '-' :: rest => (true, rest)
  | t => (false, t)

/-- The value of digits behind a sign. -/
def signedValue (negative : Bool) (digits : Text) : Int :=
  if negative then -(Text.digitsValue digits : Int) else Text.digitsValue digits

/-- Whether a number fits into 64 bits with a sign. -/
def isPosition (i : Int) : Bool :=
  -(Int.pow 2 63) ≤ i && i < Int.pow 2 63

/-- The position in front of a closing bracket, and what is left behind that. -/
def position? (t : Text) : Option (Int × Text) :=
  let (negative, numeral) := splitSign (dropBlanks t)
  let digits := numeral.takeWhile Char.isDigit
  let position := signedValue negative digits
  match dropBlanks (numeral.drop digits.length) with
  | ']' :: rest =>
    if digits.isEmpty || !isPosition position then none else some (position, rest)
  | _ => none

/-- Dropping blanks makes no text longer. -/
theorem length_dropBlanks_le (t : Text) : (dropBlanks t).length ≤ t.length :=
  (List.dropWhile_sublist _).length_le

/-- What stands behind the sign is no longer than the whole. -/
theorem length_splitSign_le (t : Text) : (splitSign t).2.length ≤ t.length := by
  unfold splitSign
  split <;> simp

/-- What is left behind a position is shorter. -/
theorem length_lt_of_position? {t rest : Text} {position : Int}
    (h : position? t = some (position, rest)) : rest.length < t.length := by
  unfold position? at h
  dsimp only at h
  split at h
  · rename_i rest' heq
    split at h
    · simp at h
    · simp only [Option.some.injEq, Prod.mk.injEq] at h
      have hle := length_dropBlanks_le ((splitSign (dropBlanks t)).2.drop
        ((splitSign (dropBlanks t)).2.takeWhile Char.isDigit).length)
      rw [heq, List.length_cons, List.length_drop, h.2] at hle
      have hsign := length_splitSign_le (dropBlanks t)
      have hblank := length_dropBlanks_le t
      omega
  · simp at h

/-- Reads a path with a dot in front of each name. -/
def read? (t : Text) : Option Path :=
  match t with
  | [] => some []
  | '.' :: rest =>
    let name := rest.takeWhile isNameCharacter
    if name.isEmpty then none
    else (read? (rest.drop name.length)).map fun path => .member name :: path
  | '[' :: rest =>
    match _h : position? rest with
    | some (position, rest') => (read? rest').map fun path => .item position :: path
    | none => none
  | _ => none
termination_by t.length
decreasing_by
  · simp only [List.length_drop, List.length_cons]
    omega
  · have := length_lt_of_position? _h
    simp only [List.length_cons]
    omega

/-- A text in which each double underscore is a dot. -/
def dotted : Text → Text
  | '_' :: '_' :: rest => '.' :: dotted rest
  | c :: rest => c :: dotted rest
  | [] => []

/-- The path that a variable stands for, if it is one of the program's. -/
def ofVariable? (name : Text) : Option Path :=
  (Text.after? "render__".toList (smallLetters name)).bind fun rest =>
    read? ('.' :: dotted rest)

end Path

end MessageTemplate

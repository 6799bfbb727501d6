/-
# JSON tokens

The tokens of a JSON text: brackets, commas, colons and scalars.  A scalar
that is written wrongly becomes a token of its own that carries the fault, so
that the reader can report the first thing wrong in reading order, be it in a
token or in the order of tokens.  Behind a faulty token nothing is read.
-/
import MessageTemplate.Json.Basic

namespace MessageTemplate.Json

/-! ## Faults -/

/-- What can be wrong with a JSON text. -/
inductive ReadFault
  | endInArray
  | endInObject
  | endInString
  | endInValue
  | expectedColon
  | expectedArrayEnd
  | expectedObjectEnd
  | expectedWord
  | expectedValue
  | invalidEscape
  | invalidNumber
  | numberOutOfRange
  | controlCharacter
  | nameNotString
  | loneSurrogate
  | unfinishedSurrogate
  | trailingComma
  | trailingCharacters
  | tooDeep
  deriving DecidableEq, Repr

/-- The text of a fault. -/
def ReadFault.message : ReadFault → Text
  | .endInArray => "EOF while parsing a list".toList
  | .endInObject => "EOF while parsing an object".toList
  | .endInString => "EOF while parsing a string".toList
  | .endInValue => "EOF while parsing a value".toList
  | .expectedColon => "expected `:`".toList
  | .expectedArrayEnd => "expected `,` or `]`".toList
  | .expectedObjectEnd => "expected `,` or `\x7d`".toList
  | .expectedWord => "expected ident".toList
  | .expectedValue => "expected value".toList
  | .invalidEscape => "invalid escape".toList
  | .invalidNumber => "invalid number".toList
  | .numberOutOfRange => "number out of range".toList
  | .controlCharacter =>
    "control character (\\u0000-\\u001F) found while parsing a string".toList
  | .nameNotString => "key must be a string".toList
  | .loneSurrogate => "lone leading surrogate in hex escape".toList
  | .unfinishedSurrogate => "unexpected end of hex escape".toList
  | .trailingComma => "trailing comma".toList
  | .trailingCharacters => "trailing characters".toList
  | .tooDeep => "recursion limit exceeded".toList

/-! ## Tokens -/

/-- A token of a JSON text. -/
inductive Token
  | openArray
  | closeArray
  | openObject
  | closeObject
  | comma
  | colon
  | null
  | bool (b : Bool)
  | number (n : Number)
  | string (t : Text)
  /-- A scalar that is written wrongly, and whether it begins as a string. -/
  | faulty (fault : ReadFault) (asString : Bool)
  /-- A character that begins no token. -/
  | stray
  deriving DecidableEq, Repr

/-- Whether a character may stand between tokens. -/
def isSpacing (c : Char) : Bool :=
  c == ' ' || c == '\n' || c == '\t' || c == '\r'

/-! ## Strings -/

/-- The value of a hexadecimal digit. -/
def hexDigit? (c : Char) : Option Nat :=
  if '0' ≤ c && c ≤ '9' then some (c.toNat - '0'.toNat)
  else if 'a' ≤ c && c ≤ 'f' then some (c.toNat - 'a'.toNat + 10)
  else if 'A' ≤ c && c ≤ 'F' then some (c.toNat - 'A'.toNat + 10)
  else none

/-- The value of the four hexadecimal digits at the front of a text.  What is
too short to hold four bytes ends the string; else a character that is no
digit makes the escape invalid. -/
def hexUnit (t : Text) : Except ReadFault Nat :=
  if Text.utf8Size (t.take 4) < 4 then .error .endInString
  else
    match (t.take 4).mapM hexDigit? with
    | some digits => .ok (digits.foldl (fun n d => 16 * n + d) 0)
    | none => .error .invalidEscape

/-- The character of a single letter behind a backslash. -/
def letterEscape? (c : Char) : Option Char :=
  if c = '"' then some '"'
  else if c = '\\' then some '\\'
  else if c = '/' then some '/'
  else if c = 'b' then some '\x08'
  else if c = 'f' then some '\x0c'
  else if c = 'n' then some '\n'
  else if c = 'r' then some '\r'
  else if c = 't' then some '\t'
  else none

/-- The character of the hexadecimal escape whose digits start a text, and the
number of characters it takes from there: a pair of surrogates is one
character, and no surrogate stands alone. -/
def hexEscape (t : Text) : Except ReadFault (Char × Nat) := do
  let unit ← hexUnit t
  if 0xdc00 ≤ unit && unit ≤ 0xdfff then .error .loneSurrogate
  else if unit < 0xd800 || 0xdbff < unit then .ok (Char.ofNat unit, 4)
  else
    match t.drop 4 with
    | [] => .error .endInString
    | ['\\'] => .error .endInString
    | '\\' :: 'u' :: rest =>
      let low ← hexUnit rest
      if low < 0xdc00 || 0xdfff < low then .error .loneSurrogate
      else .ok (Char.ofNat (0x10000 + (unit - 0xd800) * 0x400 + (low - 0xdc00)), 10)
    | _ => .error .unfinishedSurrogate

/-- Reads a string behind its opening quote.  `out` holds its characters so
far, latest first, and `taken` the number of characters read; the result is
the string and the number of characters up to and with the closing quote. -/
def stringAux (out : Text) (taken : Nat) (t : Text) : Except ReadFault (Text × Nat) :=
  match t with
  | [] => .error .endInString
  | '"' :: _ => .ok (out.reverse, taken + 1)
  | ['\\'] => .error .endInString
  | '\\' :: 'u' :: rest =>
    match hexEscape rest with
    | .ok (c, n) => stringAux (c :: out) (taken + 2 + n) (rest.drop n)
    | .error fault => .error fault
  | '\\' :: letter :: rest =>
    match letterEscape? letter with
    | some c => stringAux (c :: out) (taken + 2) rest
    | none => .error .invalidEscape
  | c :: rest =>
    if c ≤ '\u001f' then .error .controlCharacter
    else stringAux (c :: out) (taken + 1) rest
termination_by t.length
decreasing_by all_goals (simp only [List.length_drop, List.length_cons]; omega)

/-! ## Numbers -/

/-- The digits at the front of a text.  Where there are none, the text ended
too early or the number is wrong. -/
def someDigits (t : Text) : Except ReadFault Text :=
  match t.takeWhile Char.isDigit, t with
  | [], [] => .error .endInValue
  | [], _ => .error .invalidNumber
  | digits, _ => .ok digits

/-- The digits behind the point at the front of a text, if there is a point. -/
def fractionDigits? : Text → Except ReadFault (Option Text)
  | '.' :: rest => (someDigits rest).map some
  | _ => .ok none

/-- An exponent: its value and the number of characters it takes. -/
structure Exponent where
  value : Int
  length : Nat

/-- The exponent at the front of a text, if there is one. -/
def exponent? : Text → Except ReadFault (Option Exponent)
  | c :: rest =>
    if c == 'e' || c == 'E' then
      let signed := rest.head?.any fun s => s == '+' || s == '-'
      let negative := rest.head? == some '-'
      let digits := someDigits (if signed then rest.drop 1 else rest)
      digits.map fun digits =>
        some ⟨if negative then -(Text.digitsValue digits : Int) else Text.digitsValue digits,
          1 + (if signed then 1 else 0) + digits.length⟩
    else .ok none
  | [] => .ok none

/-- Reads the number at the front of a text, which starts with a minus sign or
a digit: the number and the number of characters it takes. -/
def numberAt (t : Text) : Except ReadFault (Number × Nat) := do
  let negative := t.head? == some '-'
  let unsigned := if negative then t.drop 1 else t
  let whole ← someDigits unsigned
  if whole.head? == some '0' && 1 < whole.length then .error .invalidNumber
  else
    let fraction ← fractionDigits? (unsigned.drop whole.length)
    let fractionLength := (fraction.map fun digits => digits.length + 1).getD 0
    let exponent ← exponent? (unsigned.drop (whole.length + fractionLength))
    let taken := (if negative then 1 else 0) + whole.length + fractionLength
      + (exponent.map Exponent.length).getD 0
    let number :=
      match fraction, exponent with
      | none, none => Number.ofInteger? negative (Text.digitsValue whole)
      | _, _ =>
        let digits := fraction.getD []
        let power := (exponent.map Exponent.value).getD 0
        Number.ofScientific? negative (Text.digitsValue (whole ++ digits)) (power - digits.length)
    match number with
    | some n => .ok (n, taken)
    | none => .error .numberOutOfRange

/-! ## Reading tokens -/

/-- The token of a word, given what follows its first letter and what should follow. -/
def wordToken (token : Token) (expected rest : Text) : Token × Nat :=
  if expected.isPrefixOf rest then (token, expected.length)
  else if rest.isPrefixOf expected then (.faulty .endInValue false, 0)
  else (.faulty .expectedWord false, 0)

/-- The token that starts with a character, and the number of characters it
takes behind that one. -/
def tokenAt (c : Char) (rest : Text) : Token × Nat :=
  if c = '[' then (.openArray, 0)
  else if c = ']' then (.closeArray, 0)
  else if c = '{' then (.openObject, 0)
  else if c = '}' then (.closeObject, 0)
  else if c = ',' then (.comma, 0)
  else if c = ':' then (.colon, 0)
  else if c = 'n' then wordToken .null "ull".toList rest
  else if c = 't' then wordToken (.bool true) "rue".toList rest
  else if c = 'f' then wordToken (.bool false) "alse".toList rest
  else if c = '"' then
    match stringAux [] 0 rest with
    | .ok (t, n) => (.string t, n)
    | .error fault => (.faulty fault true, 0)
  else if c = '-' || c.isDigit then
    match numberAt (c :: rest) with
    | .ok (n, taken) => (.number n, taken - 1)
    | .error fault => (.faulty fault false, 0)
  else (.stray, 0)

/-- Whether nothing is read behind a token. -/
def Token.isLast : Token → Bool
  | .faulty _ _ => true
  | .stray => true
  | _ => false

/-- The tokens of a text. -/
def tokens (t : Text) : List Token :=
  match t with
  | [] => []
  | c :: rest =>
    if isSpacing c then tokens rest
    else
      let (token, n) := tokenAt c rest
      token :: if token.isLast then [] else tokens (rest.drop n)
termination_by t.length
decreasing_by all_goals (simp only [List.length_drop, List.length_cons]; omega)

end MessageTemplate.Json

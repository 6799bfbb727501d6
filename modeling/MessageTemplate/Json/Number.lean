/-
# JSON numbers

A number written without point and exponent is an integer when it fits into 64
bits, with or without a sign; every other number is a binary64 number.
-/
import MessageTemplate.Decimal.Notation

namespace MessageTemplate.Json

/-- A JSON number. -/
inductive Number
  | integer (i : Int)
  | binary (x : Binary64)
  deriving DecidableEq, Repr

namespace Number

/-- A number as it is written. -/
def text : Number → Text
  | .integer i => Text.ofInt i
  | .binary x => x.text

/-- The number of an unfractioned numeral: an integer within 64 bits, else the
nearest binary64 number.  Minus zero is no integer. -/
def ofInteger? (negative : Bool) (digits : Nat) : Option Number :=
  if negative then
    if digits = 0 || Nat.pow 2 63 < digits then (Binary64.ofDecimal? true digits 0).map .binary
    else some (.integer (-(digits : Int)))
  else if digits < Nat.pow 2 64 then some (.integer digits)
  else (Binary64.ofDecimal? false digits 0).map .binary

/-- The number `± digits · 10 ^ power` of a numeral with a point or an exponent. -/
def ofScientific? (negative : Bool) (digits : Nat) (power : Int) : Option Number :=
  (Binary64.ofDecimal? negative digits power).map .binary

end Number

end MessageTemplate.Json

/-
# Shortest decimals

The shortest decimal of a binary64 number has the fewest digits among the
decimals that round to it, and among those it is the nearest; of two equally
near ones it is the even one.  The decimals with a given number of digits form
a grid; if a point of the grid rounds to the number, then so does one of its
two neighbours on the grid, so only these two are tried, for one digit, two
digits and so on.
-/
import MessageTemplate.Decimal.Binary64

namespace MessageTemplate

/-- The decimal number `coefficient · 10 ^ exponent`. -/
structure Decimal where
  coefficient : Nat
  exponent : Int
  deriving DecidableEq, Repr

namespace Binary64

/-- The size of a number in quarters of its last bit. -/
def quarters (x : Binary64) : Nat :=
  4 * x.significand

/-- The least size, in quarters of the last bit, that may round to a number.
Below a power of two the neighbour is half as far away. -/
def leastQuarters (x : Binary64) : Nat :=
  if x.significand = Nat.pow 2 (precision - 1) && leastExponent < x.exponent then x.quarters - 1
  else x.quarters - 2

/-- The greatest size, in quarters of the last bit, that may round to a number. -/
def greatestQuarters (x : Binary64) : Nat :=
  x.quarters + 2

/-- The common measures of a number and of the grid of step `10 ^ power`: a
quarter of the last bit is to a step of the grid as the first to the second. -/
def measures (x : Binary64) (power : Int) : Nat × Nat :=
  let bits := x.exponent - 2
  (Nat.pow 2 bits.toNat * Nat.pow 10 (-power).toNat,
    Nat.pow 10 power.toNat * Nat.pow 2 (-bits).toNat)

/-- Whether the point `coefficient · 10 ^ power` rounds to a number.  The ends
of the interval do when the significand is even. -/
def roundsTo (x : Binary64) (power : Int) (coefficient : Nat) : Bool :=
  let (bit, step) := x.measures power
  let point := coefficient * step
  let least := x.leastQuarters * bit
  let greatest := x.greatestQuarters * bit
  if x.significand % 2 = 0 then least ≤ point && point ≤ greatest
  else least < point && point < greatest

/-- The nearest point of the grid of step `10 ^ power` that rounds to a number.
Of two equally near points it is the even one. -/
def nearestOnGrid? (x : Binary64) (power : Int) : Option Decimal :=
  let (bit, step) := x.measures power
  let below := x.quarters * bit / step
  let beyond := x.quarters * bit % step
  let takesAbove : Bool :=
    if 2 * beyond = step then below % 2 == 1 else step < 2 * beyond
  match x.roundsTo power below, x.roundsTo power (below + 1) with
  | true, true => some ⟨if takesAbove then below + 1 else below, power⟩
  | true, false => some ⟨below, power⟩
  | false, true => some ⟨below + 1, power⟩
  | false, false => none

/-- Whether a number is at least `10 ^ power`. -/
def isAtLeastPower (x : Binary64) (power : Int) : Bool :=
  let (bit, step) := x.measures power
  step ≤ x.quarters * bit

/-- The exponent of the greatest power of ten that is at most a positive
number.  It is guessed from the power of two and then made good. -/
def decimalExponent (x : Binary64) : Int :=
  let guess := ((x.significand.log2 + x.exponent) * 30103).fdiv 100000
  if x.isAtLeastPower (guess + 1) then guess + 1
  else if x.isAtLeastPower guess then guess
  else guess - 1

/-- The shortest decimal of the size of a positive number.  Seventeen digits
always suffice. -/
def shortest (x : Binary64) : Decimal :=
  let top := x.decimalExponent
  ((List.range 17).findSome? fun (n : Nat) => x.nearestOnGrid? (top - (n : Nat))).getD ⟨0, 0⟩

end Binary64

end MessageTemplate

/-
# Binary64 numbers

A finite binary64 number is a sign, a significand of at most 53 bits and a
power of two.  `Binary64.ofDecimal?` rounds a decimal number to the nearest
one, a tie going to the even significand, and refuses a number too large for
the format.
-/
namespace MessageTemplate

/-- The number `± significand · 2 ^ exponent`.  Reading yields significands
below `2 ^ 53` that are at least `2 ^ 52` unless the exponent is the least, `-1074`. -/
structure Binary64 where
  negative : Bool
  significand : Nat
  exponent : Int
  deriving DecidableEq, Repr

namespace Binary64

/-- The bits of a significand. -/
def precision : Nat := 53

/-- The least exponent of the format. -/
def leastExponent : Int := -1074

/-- The greatest exponent of the format. -/
def greatestExponent : Int := 971

/-- Zero, with its sign. -/
def zero (negative : Bool) : Binary64 :=
  ⟨negative, 0, leastExponent⟩

/-- The natural number nearest to a quotient, a tie going to the even one. -/
def roundQuotient (numerator denominator : Nat) : Nat :=
  let quotient := numerator / denominator
  let remainder := numerator % denominator
  if 2 * remainder < denominator then quotient
  else if 2 * remainder == denominator && quotient % 2 == 0 then quotient
  else quotient + 1

/-- A quotient multiplied by a power of two, as numerator and denominator. -/
def scale (numerator denominator : Nat) (power : Int) : Nat × Nat :=
  (numerator * Nat.pow 2 power.toNat, denominator * Nat.pow 2 (-power).toNat)

/-- The exponent of the greatest power of two that is at most a positive quotient. -/
def floorLog (numerator denominator : Nat) : Int :=
  let guess : Int := (numerator.log2 : Int) - denominator.log2
  let (n, d) := scale numerator denominator (-guess)
  if n < d then guess - 1 else guess

/-- The nearest number to a positive quotient, or `none` if that is too large. -/
def ofQuotient? (negative : Bool) (numerator denominator : Nat) : Option Binary64 :=
  let exponent := max (floorLog numerator denominator - (precision - 1)) leastExponent
  let (n, d) := scale numerator denominator (-exponent)
  let significand := roundQuotient n d
  let rounded : Binary64 :=
    if significand = Nat.pow 2 precision then ⟨negative, Nat.pow 2 (precision - 1), exponent + 1⟩
    else ⟨negative, significand, exponent⟩
  if greatestExponent < rounded.exponent then none else some rounded

/-- The nearest number to `± digits · 10 ^ power`, or `none` if that is too
large.  Numbers far beyond the format are told by their size alone. -/
def ofDecimal? (negative : Bool) (digits : Nat) (power : Int) : Option Binary64 :=
  if digits = 0 then some (zero negative)
  else
    let size := (Nat.toDigits 10 digits).length + power
    if 310 < size then none
    else if size < -330 then some (zero negative)
    else ofQuotient? negative (digits * Nat.pow 10 power.toNat) (Nat.pow 10 (-power).toNat)

end Binary64

end MessageTemplate

/-
# Notation of numbers

A binary64 number is written with its shortest digits: positionally, unless it
is so small or so great that the scientific form is easier to read.  The
positional form always has a digit behind the point; the scientific form has a
sign in front of a positive exponent and no point behind a single digit.
-/
import MessageTemplate.Decimal.Shortest
import MessageTemplate.Text.Basic

namespace MessageTemplate

/-! ## The two forms -/

/-- Whether a number whose first digit stands for a multiple of `10 ^ first` is
written positionally. -/
def isPositional (first : Int) : Bool :=
  -5 ≤ first && first ≤ 15

/-- Digits as a positional numeral; `first` is the exponent of the first digit. -/
def positionalText (digits : Text) (first : Int) : Text :=
  if first < 0 then
    "0.".toList ++ List.replicate (-first - 1).toNat '0' ++ digits
  else
    let whole := first.toNat + 1
    let fraction := digits.drop whole
    digits.take whole ++ List.replicate (whole - digits.length) '0' ++ ['.']
      ++ (if fraction.isEmpty then ['0'] else fraction)

/-- Digits in scientific form; `first` is the exponent of the first digit. -/
def scientificText (digits : Text) (first : Int) : Text :=
  digits.take 1 ++ (if digits.length ≤ 1 then [] else '.' :: digits.drop 1) ++ ['e']
    ++ (if first < 0 then [] else ['+']) ++ Text.ofInt first

/-! ## Numbers -/

/-- A binary64 number as it is written. -/
def Binary64.text (x : Binary64) : Text :=
  let sign := if x.negative then ['-'] else []
  if x.significand = 0 then sign ++ "0.0".toList
  else
    let shortest := x.shortest
    let digits := Text.ofNat shortest.coefficient
    let first := shortest.exponent + digits.length - 1
    let digits := (digits.reverse.dropWhile (· == '0')).reverse
    sign ++ if isPositional first then positionalText digits first
      else scientificText digits first

end MessageTemplate

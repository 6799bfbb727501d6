/-
# Tables of code point ranges

A Unicode property is a set of characters, written as the ranges of code
points that have it, in rising order and apart from each other.
-/
namespace MessageTemplate

/-- The ranges of a property, each with its first and its last code point. -/
abbrev RangeTable := List (Nat × Nat)

namespace RangeTable

/-- Whether a code point lies in one of the ranges.  The ranges rise, so the
search stops at the first that starts behind the code point. -/
def holds : RangeTable → Nat → Bool
  | [], _ => false
  | (first, last) :: rest, n =>
    if n < first then false
    else if n ≤ last then true
    else holds rest n

end RangeTable

end MessageTemplate

/-!
# Character classes as ranges

A character class is a finite list of inclusive ranges of code points. Membership is a Boolean test
so that tables can be evaluated.
-/

namespace PerArity.Text

/-- An inclusive range of code points. -/
structure CharRange where
  /-- The least code point of the range. -/
  first : Nat
  /-- The greatest code point of the range. -/
  last : Nat

namespace CharRange

/-- Whether a character lies in the range. -/
def contains (r : CharRange) (c : Char) : Bool := r.first ≤ c.toNat && c.toNat ≤ r.last

end CharRange

/-- Whether a character lies in one of the ranges. -/
def inRanges (ranges : List CharRange) (c : Char) : Bool := ranges.any (·.contains c)

end PerArity.Text

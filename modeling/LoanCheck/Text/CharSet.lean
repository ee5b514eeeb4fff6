/-!
# Sets of characters

A set of characters is given by closed intervals of code points. The tables of the character
classes are values of this type, one module a class.
-/

namespace LoanCheck.Text

/-- A set of characters, as closed intervals of code points in ascending order. -/
structure CharSet where
  intervals : List (Nat × Nat)

/-- The character lies in one of the intervals. -/
def CharSet.contains (s : CharSet) (c : Char) : Bool :=
  s.intervals.any fun r => r.1 ≤ c.toNat && c.toNat ≤ r.2

end LoanCheck.Text

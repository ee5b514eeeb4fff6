/-!
# Runs of letters

Most letters have their other case at a fixed distance, and neighbouring letters share the distance. A
table of letter case is a list of such runs.
-/

namespace LoanCheck.Text

/-- Every `step`-th code point from `first` to `last` has its other case `shift` further on. -/
structure CaseRun where
  first : Nat
  last : Nat
  step : Nat
  shift : Int

/-- The code point is one of the run. -/
def CaseRun.covers (r : CaseRun) (n : Nat) : Bool :=
  r.first ≤ n && n ≤ r.last && (n - r.first) % r.step == 0

/-- The other case of a character, by the first run that covers it. A character outside of all runs stays as
it is. -/
def shiftCase (runs : List CaseRun) (c : Char) : Char :=
  match runs.find? (·.covers c.toNat) with
  | some r => Char.ofNat (c.toNat + r.shift).toNat
  | none => c

end LoanCheck.Text

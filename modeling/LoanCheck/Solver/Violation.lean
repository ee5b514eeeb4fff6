import LoanCheck.Solver.Relation

/-!
# Violations

A violation is a loan that is invalidated at a point where a live region still requires it, together
with an explanation: where the loan was taken, which regions it came through, and where it is used next.
-/

namespace LoanCheck.Solver

/-- A loan invalidated while a live region requires it. -/
structure Violation where
  /-- Where the loan is invalidated. -/
  point : Point
  loan : Loan
  /-- The live region that requires the loan. -/
  region : Region
  /-- Where the loan was taken, if that could be traced. -/
  borrowPoint : Option Point := none
  /-- The nearest later point where the region is live and requires the loan. -/
  usagePoint : Option Point := none
  /-- Regions the loan came through, from the one that took it to `region`. -/
  chain : List Region := []
deriving DecidableEq, Repr

def Violation.message (v : Violation) : String :=
  let origin := match v.borrowPoint with
    | some p => s!" (borrowed at point {p})"
    | none => ""
  s!"loan {v.loan} invalidated at point {v.point} while required by region {v.region}" ++ origin

end LoanCheck.Solver

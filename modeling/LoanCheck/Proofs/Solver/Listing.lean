import LoanCheck.Proofs.Solver.Verdict
import Mathlib.Data.List.Nodup
import Mathlib.Data.Prod.Lex

/-!
# The order of violations

A violation is told from others by its point and its loan (`Violation.key`). The list of all violations goes through the
points and then through the loans of a point, both ascending, whatever state the checker is in
(`Checker.pairwise_violations`), so no pair of a point and a loan is listed twice
(`Checker.nodup_keys_violations`).
-/

namespace LoanCheck.Solver

/-- The point and the loan of a violation. -/
def Violation.key (v : Violation) : Point × Loan :=
  (v.point, v.loan)

namespace Inputs

theorem pairwise_lt_invalidationPoints (i : Inputs) : i.invalidationPoints.Pairwise (· < ·) :=
  Std.ExtTreeSet.ordered_toList.imp fun h => Int.compare_eq_lt.1 h

theorem pairwise_lt_loansInvalidatedAt (i : Inputs) (p : Point) :
    (i.loansInvalidatedAt p).Pairwise (· < ·) := by
  unfold loansInvalidatedAt
  rw [List.pairwise_map, List.pairwise_filter]
  refine Std.ExtTreeSet.ordered_toList.imp fun {f g} h hf hg => ?_
  -- of two invalidations at one point the loans decide
  have hpoints : f.point = g.point := by simp_all
  have hcompare : (compare f.point g.point).then (compare f.loan g.loan) = .lt := h
  rcases Ordering.then_eq_lt.1 hcompare with hlt | ⟨-, hlt⟩
  · exact absurd hpoints (Int.ne_of_lt (Int.compare_eq_lt.1 hlt))
  · exact Int.compare_eq_lt.1 hlt

end Inputs

namespace Checker

variable {c : Checker} {p : Point}

theorem pairwise_violationsAlong (c : Checker) (next : Successors) (p : Point) :
    (c.violationsAlong next p).Pairwise fun v w => Prod.Lex (· < ·) (· < ·) v.key w.key := by
  unfold violationsAlong
  rw [List.pairwise_filterMap]
  refine (c.inputs.pairwise_lt_loansInvalidatedAt p).imp fun {l l'} hlt v hv w hw => ?_
  obtain ⟨r, -, rfl⟩ := Option.map_eq_some_iff.1 hv
  obtain ⟨r', -, rfl⟩ := Option.map_eq_some_iff.1 hw
  exact .right p hlt

/-- Violations are listed by point and, at a point, by loan. -/
theorem pairwise_violations (c : Checker) :
    c.violations.Pairwise fun v w => Prod.Lex (· < ·) (· < ·) v.key w.key := by
  unfold violations
  rw [List.pairwise_flatMap]
  constructor
  · intro p _
    exact c.pairwise_violationsAlong _ p
  · refine c.inputs.pairwise_lt_invalidationPoints.imp fun {p q} hlt v hv w hw => ?_
    have hv := point_of_mem_violationsAlong hv
    have hw := point_of_mem_violationsAlong hw
    exact .left _ _ (by rwa [hv, hw])

/-- A point and a loan are listed once. -/
theorem nodup_keys_violations (c : Checker) : (c.violations.map Violation.key).Nodup := by
  have hkeys : (c.violations.map Violation.key).Pairwise (Prod.Lex (· < ·) (· < ·)) := by
    rw [List.pairwise_map]
    exact c.pairwise_violations
  exact hkeys.nodup

/-- The pairs that are listed are the invalidated loans that a live region requires. -/
theorem mem_keys_violations {l : Loan} :
    (p, l) ∈ c.violations.map Violation.key ↔
      ⟨p, l⟩ ∈ c.inputs.invalidations ∧
        ∃ r, ⟨r, p⟩ ∈ c.inputs.live ∧ ⟨r, l, p⟩ ∈ c.requirements := by
  rw [← exists_violation_iff, List.mem_map]
  simp only [Violation.key, Prod.mk.injEq]

end Checker

end LoanCheck.Solver

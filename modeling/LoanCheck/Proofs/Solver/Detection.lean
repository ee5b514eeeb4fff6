import LoanCheck.Proofs.Solver.Histories
import LoanCheck.Proofs.Solver.Listing

/-!
# Detection in every state

A checker detects violations in two ways. `isError` looks for any invalidated loan that any live region requires, and the
reports list points, loans and regions in ascending order and take the first region of each pair
(`isLeast_of_requiringRegion?`). Both look at the requirements that the checker has at the time, whether they are
saturated or not, and both come down to the same condition (`Checker.isError_iff`, `Checker.violationsAt_ne_nil_iff`). A
run reports what the checker finds when it is over (`Checker.violations_of_run`), so its error points are the points where
the checker then sees an error (`Checker.mem_errorPoints_iff`).

`Moment.detection_after` says all of this for the states that a history of operations can lead to.
-/

namespace LoanCheck.Solver

variable {requirements : Relation Requirement} {live : Relation Liveness} {l : Loan} {p : Point} {r : Region}

/-! ## Loans and regions -/

theorem loanLiveAt_iff :
    loanLiveAt requirements live l p = true ↔ ∃ r, ⟨r, p⟩ ∈ live ∧ ⟨r, l, p⟩ ∈ requirements := by
  simp only [loanLiveAt, List.any_eq_true, Std.ExtTreeSet.mem_toList, Bool.and_eq_true, decide_eq_true_eq,
    Std.ExtTreeSet.contains_iff_mem]
  constructor
  · rintro ⟨⟨r, _⟩, hlive, rfl, hreq⟩
    exact ⟨r, hlive, hreq⟩
  · rintro ⟨r, hlive, hreq⟩
    exact ⟨⟨r, p⟩, hlive, rfl, hreq⟩

/-- Live regions are looked through in ascending order. -/
theorem isLeast_of_requiringRegion? (h : requiringRegion? requirements live l p = some r) :
    IsLeast {r | ⟨r, p⟩ ∈ live ∧ ⟨r, l, p⟩ ∈ requirements} r := by
  obtain ⟨⟨r, q⟩, hfind, rfl⟩ := Option.map_eq_some_iff.1 h
  obtain ⟨hfound, before, behind, hsplit, hbefore⟩ := List.find?_eq_some_iff_append.1 hfind
  simp only [Bool.and_eq_true, decide_eq_true_eq, Std.ExtTreeSet.contains_iff_mem] at hfound
  obtain ⟨rfl, hreq⟩ := hfound
  have hlive : ⟨r, q⟩ ∈ live := Std.ExtTreeSet.mem_toList.1 (List.mem_of_find?_eq_some hfind)
  refine ⟨⟨hlive, hreq⟩, fun r' ⟨hlive', hreq'⟩ => ?_⟩
  have hsorted : live.toList.Pairwise fun f g => compare f g = .lt := Std.ExtTreeSet.ordered_toList
  have hmem : ⟨r', q⟩ ∈ live.toList := Std.ExtTreeSet.mem_toList.2 hlive'
  rw [hsplit] at hsorted hmem
  rcases List.mem_append.1 hmem with hmem | hmem
  · have := hbefore _ hmem
    simp [Std.ExtTreeSet.contains_iff_mem.2 hreq'] at this
  · rcases List.mem_cons.1 hmem with heq | hmem
    · cases heq
      exact le_rfl
    · have hlt := (List.pairwise_cons.1 (List.pairwise_append.1 hsorted).2.1).1 _ hmem
      have hcompare : (compare r r').then (compare q q) = .lt := hlt
      rcases Ordering.then_eq_lt.1 hcompare with hlt | ⟨-, hlt⟩
      · exact (Int.compare_eq_lt.1 hlt).le
      · exact absurd (Int.compare_eq_lt.1 hlt) (lt_irrefl q)

namespace Checker

variable {c : Checker} {clock : Clock} {result : CheckResult}

/-! ## Points -/

theorem isError_iff :
    c.isError p = true ↔ ∃ l, ⟨p, l⟩ ∈ c.inputs.invalidations ∧
      ∃ r, ⟨r, p⟩ ∈ c.inputs.live ∧ ⟨r, l, p⟩ ∈ c.requirements := by
  simp only [isError, Solver.isError, List.any_eq_true, Std.ExtTreeSet.mem_toList, Bool.and_eq_true,
    decide_eq_true_eq, loanLiveAt_iff]
  constructor
  · rintro ⟨⟨_, l⟩, hinv, rfl, hlive⟩
    exact ⟨l, hinv, hlive⟩
  · rintro ⟨l, hinv, hlive⟩
    exact ⟨⟨p, l⟩, hinv, rfl, hlive⟩

theorem violationsAt_ne_nil_iff :
    c.violationsAt p ≠ [] ↔ ∃ l, ⟨p, l⟩ ∈ c.inputs.invalidations ∧
      ∃ r, ⟨r, p⟩ ∈ c.inputs.live ∧ ⟨r, l, p⟩ ∈ c.requirements := by
  rw [ne_eq, List.eq_nil_iff_forall_not_mem, not_forall_not]
  constructor
  · rintro ⟨v, hv⟩
    have hpoint := point_of_mem_violationsAlong hv
    exact ⟨v.loan, (exists_mem_violationsAlong_iff.1 ⟨v, hv, hpoint, rfl⟩).2⟩
  · rintro ⟨l, hinv, hlive⟩
    obtain ⟨v, hv, -⟩ := exists_mem_violationsAlong_iff.2 ⟨rfl, hinv, hlive⟩
    exact ⟨v, hv⟩

theorem isError_iff_exists_violation : c.isError p = true ↔ ∃ v ∈ c.violations, v.point = p := by
  rw [isError_iff]
  simp only [← exists_violation_iff]
  exact ⟨fun ⟨_, v, hv, hp, _⟩ => ⟨v, hv, hp⟩, fun ⟨v, hv, hp⟩ => ⟨v.loan, v, hv, hp, rfl⟩⟩

/-! ## Runs -/

/-- A run reports what the checker finds after it. -/
theorem violations_of_run (h : (c.run clock).outcome = .ok result) :
    result.violations = (c.run clock).checker.violations := by
  obtain ⟨outcome, -, houtcome⟩ := c.saturates_run clock
  rw [h] at houtcome
  cases outcome with
  | error e => cases houtcome
  | ok passes =>
    rw [Except.ok.inj houtcome]

theorem mem_errorPoints_iff (h : (c.run clock).outcome = .ok result) :
    p ∈ result.errorPoints ↔ (c.run clock).checker.isError p = true := by
  rw [isError_iff_exists_violation, ← violations_of_run h, CheckResult.errorPoints, Std.ExtTreeSet.mem_toList,
    Relation.mem_ofList, List.mem_map]

theorem ok_iff_of_run (h : (c.run clock).outcome = .ok result) :
    result.ok = true ↔ ∀ p, (c.run clock).checker.isError p = false := by
  simp only [← Bool.not_eq_true, isError_iff_exists_violation, ← violations_of_run h, CheckResult.ok,
    List.isEmpty_iff, List.eq_nil_iff_forall_not_mem]
  exact ⟨fun hno _ ⟨v, hv, _⟩ => hno v hv, fun hno v hv => hno v.point ⟨v, hv, rfl⟩⟩

end Checker

theorem CheckResult.pairwise_errorPoints (result : CheckResult) : result.errorPoints.Pairwise (· < ·) :=
  Std.ExtTreeSet.ordered_toList.imp fun h => Int.compare_eq_lt.1 h

/-- A checker after any history of operations, some of which may have been stopped. A point is an error point exactly if
there are violations at it. The violations are listed in strictly ascending order of point and loan; they are those of
the invalidated loans that are live, and each names the least of the live regions that require its loan. If the checker
is run from there and comes to a result, the error points of the result are the points where the checker then sees an
error, in ascending order, and the result is good exactly if there are none. -/
theorem Moment.detection_after (i : Inputs) (budget : Budget) (clock : Clock) (history : List Operation) :
    let c := ((⟨Checker.start i budget, clock⟩ : Moment).after history).checker
    (∀ p, c.isError p = true ↔ c.violationsAt p ≠ []) ∧
      c.violations.Pairwise (fun v w => Prod.Lex (· < ·) (· < ·) (v.point, v.loan) (w.point, w.loan)) ∧
      (∀ p l, (∃ v ∈ c.violations, v.point = p ∧ v.loan = l) ↔
        ⟨p, l⟩ ∈ i.invalidations ∧ loanLiveAt c.requirements i.live l p = true) ∧
      (∀ v ∈ c.violations,
        IsLeast {r | ⟨r, v.point⟩ ∈ i.live ∧ ⟨r, v.loan, v.point⟩ ∈ c.requirements} v.region) ∧
      ∀ clock' result, (c.run clock').outcome = .ok result →
        result.errorPoints.Pairwise (· < ·) ∧
        (∀ p, p ∈ result.errorPoints ↔ (c.run clock').checker.isError p = true) ∧
        (result.ok = true ↔ ∀ p, (c.run clock').checker.isError p = false) := by
  intro c
  have hsound : c.Sound i :=
    Moment.after_of_saturates .saturates .replaceBudget history (Checker.sound_start budget)
  rw [← hsound.inputs]
  refine ⟨fun p => ?_, c.pairwise_violations, fun p l => ?_, fun v hv => ?_, fun clock' result hresult => ?_⟩
  · rw [Checker.isError_iff, Checker.violationsAt_ne_nil_iff]
  · rw [Checker.exists_violation_iff, loanLiveAt_iff]
  · exact isLeast_of_requiringRegion? (Checker.of_mem_violations hv).2.1
  · exact ⟨result.pairwise_errorPoints, fun p => Checker.mem_errorPoints_iff hresult, Checker.ok_iff_of_run hresult⟩

end LoanCheck.Solver

import LoanCheck.Proofs.Solver.Paths

/-!
# The verdict of a check

A violation is reported for a point and a loan exactly if the point invalidates the loan and a region live
there requires it (`Checker.exists_violation_iff`), in whatever state the checker is. Without limits a check
ends with both relations saturated (`check_unlimited`). Together with their path form this says from the base
relations alone which facts are derived (`check_relations_iff_path`) and which violations are reported
(`check_reports_iff_path`).
-/

namespace LoanCheck.Solver

/-! ## Detection -/

theorem isSome_requiringRegion?_iff {requirements : Relation Requirement} {live : Relation Liveness}
    {l : Loan} {p : Point} :
    (requiringRegion? requirements live l p).isSome ↔
      ∃ r, ⟨r, p⟩ ∈ live ∧ ⟨r, l, p⟩ ∈ requirements := by
  simp only [requiringRegion?, Option.isSome_map, List.find?_isSome, Std.ExtTreeSet.mem_toList,
    Bool.and_eq_true, decide_eq_true_eq, Std.ExtTreeSet.contains_iff_mem]
  constructor
  · rintro ⟨⟨r, _⟩, hlive, rfl, hreq⟩
    exact ⟨r, hlive, hreq⟩
  · rintro ⟨r, hlive, hreq⟩
    exact ⟨⟨r, p⟩, hlive, rfl, hreq⟩

namespace Inputs

theorem mem_loansInvalidatedAt {i : Inputs} {p : Point} {l : Loan} :
    l ∈ i.loansInvalidatedAt p ↔ ⟨p, l⟩ ∈ i.invalidations := by
  simp only [loansInvalidatedAt, List.mem_map, List.mem_filter, Std.ExtTreeSet.mem_toList,
    decide_eq_true_eq]
  constructor
  · rintro ⟨⟨_, _⟩, ⟨h, rfl⟩, rfl⟩
    exact h
  · intro h
    exact ⟨⟨p, l⟩, ⟨h, rfl⟩, rfl⟩

theorem mem_invalidationPoints {i : Inputs} {p : Point} :
    p ∈ i.invalidationPoints ↔ ∃ l, ⟨p, l⟩ ∈ i.invalidations := by
  simp only [invalidationPoints, Relation.mem_ofList, Std.ExtTreeSet.mem_toList, List.mem_map]
  constructor
  · rintro ⟨⟨_, l⟩, h, rfl⟩
    exact ⟨l, h⟩
  · rintro ⟨l, h⟩
    exact ⟨⟨p, l⟩, h, rfl⟩

end Inputs

namespace Checker

variable {c : Checker} {next : Successors} {p q : Point} {l : Loan} {v : Violation}

theorem mem_violationsAlong : v ∈ c.violationsAlong next q ↔
    ∃ l r, ⟨q, l⟩ ∈ c.inputs.invalidations ∧
      requiringRegion? c.requirements c.inputs.live l q = some r ∧ c.explain next r l q = v := by
  simp only [violationsAlong, List.mem_filterMap, Option.map_eq_some_iff, Inputs.mem_loansInvalidatedAt,
    exists_and_left]

theorem point_of_mem_violationsAlong (hv : v ∈ c.violationsAlong next q) : v.point = q := by
  obtain ⟨l, r, -, -, rfl⟩ := mem_violationsAlong.1 hv
  rfl

/-- A violation explains why an invalidated loan is required. -/
theorem of_mem_violations (hv : v ∈ c.violations) :
    ⟨v.point, v.loan⟩ ∈ c.inputs.invalidations ∧
      requiringRegion? c.requirements c.inputs.live v.loan v.point = some v.region ∧
      c.explain (Successors.of c.inputs.steps) v.region v.loan v.point = v := by
  obtain ⟨q, -, hv⟩ := List.mem_flatMap.1 hv
  obtain ⟨l, r, hinv, hr, rfl⟩ := mem_violationsAlong.1 hv
  exact ⟨hinv, hr, rfl⟩

theorem exists_mem_violationsAlong_iff :
    (∃ v ∈ c.violationsAlong next q, v.point = p ∧ v.loan = l) ↔
      q = p ∧ ⟨p, l⟩ ∈ c.inputs.invalidations ∧
        ∃ r, ⟨r, p⟩ ∈ c.inputs.live ∧ ⟨r, l, p⟩ ∈ c.requirements := by
  simp only [mem_violationsAlong, ← isSome_requiringRegion?_iff, Option.isSome_iff_exists]
  constructor
  · rintro ⟨_, ⟨_, r, hinv, hr, rfl⟩, rfl, rfl⟩
    exact ⟨rfl, hinv, r, hr⟩
  · rintro ⟨rfl, hinv, r, hr⟩
    exact ⟨_, ⟨l, r, hinv, hr, rfl⟩, rfl, rfl⟩

/-- A violation is reported where a loan is invalidated that a live region requires. -/
theorem exists_violation_iff :
    (∃ v ∈ c.violations, v.point = p ∧ v.loan = l) ↔
      ⟨p, l⟩ ∈ c.inputs.invalidations ∧
        ∃ r, ⟨r, p⟩ ∈ c.inputs.live ∧ ⟨r, l, p⟩ ∈ c.requirements := by
  simp only [violations, List.mem_flatMap]
  constructor
  · rintro ⟨v, ⟨q, -, hv⟩, hp⟩
    exact (exists_mem_violationsAlong_iff.1 ⟨v, hv, hp⟩).2
  · rintro ⟨hinv, hr⟩
    obtain ⟨v, hv, hp⟩ := exists_mem_violationsAlong_iff.2 ⟨rfl, hinv, hr⟩
    exact ⟨v, ⟨p, Inputs.mem_invalidationPoints.2 ⟨l, hinv⟩, hv⟩, hp⟩

end Checker

/-! ## Checks without limits -/

section Closures

/-- The inclusions that saturation without limits ends with. -/
def Inputs.inclusionClosure (i : Inputs) : Relation Inclusion :=
  (inclusionCourse i.steps i.inclusions fun _ => (none : Option Stop)).last i.inclusions

/-- The course of the requirements over saturated inclusions, without limits. -/
def Inputs.requirementCourse (i : Inputs) : Course Requirement Stop :=
  Solver.requirementCourse i.inclusionClosure i.steps i.kills i.borrows fun _ => none

/-- The requirements that saturation without limits ends with. -/
def Inputs.requirementClosure (i : Inputs) : Relation Requirement :=
  i.requirementCourse.last i.borrows

/-- A checker after saturation without limits. -/
def Checker.saturated (i : Inputs) : Checker where
  inputs := i
  budget := {}
  inclusions := i.inclusionClosure
  requirements := i.requirementClosure
  provenance := Provenance.recordRounds ∅ i.requirementCourse.rounds

variable (i : Inputs) (clock : Clock)

theorem Inputs.covers_requirementCourse :
    (Requirement.firstStage i.inclusionClosure i.steps i.kills i.borrows).Covers (fun _ => none) 0
      i.requirementCourse :=
  requirementCourse_covers

theorem Inputs.stop_requirementCourse : i.requirementCourse.stop = none :=
  i.covers_requirementCourse.stop_eq_none fun _ => rfl

theorem Checker.saturate_unlimited :
    ((Checker.start i {}).saturate clock).checker = Checker.saturated i ∧
      ∃ passes, ((Checker.start i {}).saturate clock).outcome = .ok passes := by
  have hinc : (metered {} clock (inclusionCourse i.steps i.inclusions)).result .inclusions
      i.inclusions = .ok i.inclusionClosure :=
    Metered.result_of_stop_eq_none _ _ (inclusionCourse_covers.stop_eq_none fun _ => rfl)
  have hreq : ∀ clock, (metered {} clock (Solver.requirementCourse i.inclusionClosure i.steps i.kills
      i.borrows)).result .requirements i.borrows = .ok i.requirementClosure := fun clock =>
    Metered.result_of_stop_eq_none _ _ (requirementCourse_covers.stop_eq_none fun _ => rfl)
  simp only [Checker.saturate, Checker.start, hinc, Checker.saturateRequirements, hreq]
  exact ⟨rfl, _, rfl⟩

/-- A check without limits reports what the saturated checker does. -/
theorem check_unlimited :
    ∃ passes, (check i {} clock).outcome =
      .ok ⟨(Checker.saturated i).violations, i.inclusionClosure, i.requirementClosure, passes⟩ := by
  obtain ⟨hchecker, passes, hpasses⟩ := Checker.saturate_unlimited i (clock.advance 1)
  exact ⟨passes, by simp only [check, Checker.run, hpasses, hchecker, Checker.saturated]⟩

theorem mem_inclusionClosure_iff (f : Inclusion) :
    f ∈ i.inclusionClosure ↔ i.FlowsAt f.point f.sub f.sup :=
  Set.ext_iff.1 ((isLeast_last_inclusionCourse
    (inclusionCourse_covers.stop_eq_none fun _ => rfl)).unique i.isLeast_flowsAt) f

theorem mem_requirementClosure_iff (f : Requirement) :
    f ∈ i.requirementClosure ↔ i.RequiredAt f.region f.loan f.point :=
  Set.ext_iff.1 ((isLeast_last_requirementCourse
    (requirementCourse_covers.stop_eq_none fun _ => rfl)).unique
      (Inputs.isLeast_requiredAt (mem_inclusionClosure_iff i))) f

end Closures

/-- A check without limits ends. One region flows into another at a point exactly if a chain of given
inclusions, each asserted at a point that leads to this one, comes from the one to the other. A region requires
a loan at a point exactly if some borrow of the loan leads there along steps that leave no point where it is
killed, and the region is the one that borrowed, or the one that borrowed flows into it at that point. -/
theorem check_relations_iff_path (i : Inputs) (clock : Clock) :
    ∃ result, (check i {} clock).outcome = .ok result ∧
      (∀ r₁ r₂ p, ⟨r₁, r₂, p⟩ ∈ result.inclusions ↔ i.FlowsAt p r₁ r₂) ∧
      ∀ r l p, ⟨r, l, p⟩ ∈ result.requirements ↔
        ∃ r₀ p₀, ⟨r₀, l, p₀⟩ ∈ i.borrows ∧ i.Carries l p₀ p ∧
          (r = r₀ ∨ ⟨r₀, r, p⟩ ∈ result.inclusions) := by
  obtain ⟨passes, hcheck⟩ := check_unlimited i clock
  refine ⟨_, hcheck, fun r₁ r₂ p => mem_inclusionClosure_iff i ⟨r₁, r₂, p⟩, fun r l p => ?_⟩
  rw [mem_requirementClosure_iff i ⟨r, l, p⟩, Inputs.RequiredAt]
  refine exists₂_congr fun r₀ p₀ => and_congr_right fun _ => and_congr_right fun _ => ?_
  exact or_congr_right (mem_inclusionClosure_iff i ⟨r₀, r, p⟩).symm

/-- A check without limits ends, and it reports a loan at a point exactly if the point invalidates the loan,
some borrow of the loan leads to the point along steps that leave no point where it is killed, and a region
live at the point is the one that borrowed, or is reached from it by given inclusions asserted at points that
lead to this one. -/
theorem check_reports_iff_path (i : Inputs) (clock : Clock) :
    ∃ result, (check i {} clock).outcome = .ok result ∧
      ∀ p l, (∃ v ∈ result.violations, v.point = p ∧ v.loan = l) ↔
        ⟨p, l⟩ ∈ i.invalidations ∧
          ∃ r₀ p₀ r, ⟨r₀, l, p₀⟩ ∈ i.borrows ∧ i.Carries l p₀ p ∧ ⟨r, p⟩ ∈ i.live ∧
            (r = r₀ ∨ i.FlowsAt p r₀ r) := by
  obtain ⟨passes, hcheck⟩ := check_unlimited i clock
  refine ⟨_, hcheck, fun p l => ?_⟩
  rw [Checker.exists_violation_iff]
  refine and_congr_right fun _ => ?_
  constructor
  · rintro ⟨r, hlive, hreq⟩
    obtain ⟨r₀, p₀, h₀, hcarry, hflow⟩ := (mem_requirementClosure_iff i _).1 hreq
    exact ⟨r₀, p₀, r, h₀, hcarry, hlive, hflow⟩
  · rintro ⟨r₀, p₀, r, h₀, hcarry, hlive, hflow⟩
    exact ⟨r, hlive, (mem_requirementClosure_iff i _).2 ⟨r₀, p₀, h₀, hcarry, hflow⟩⟩

end LoanCheck.Solver

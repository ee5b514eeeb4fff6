import LoanCheck.Proofs.Solver.Saturation
import LoanCheck.Solver.Rules

/-!
# Saturated requirements

A requirement gives others one at a time, so its derivations are paths. `Requirement.Reached` counts the steps
of a path from the seed, and `Requirement.Distance` is the least such count. The levels of the saturation are
the balls around the seed (`Requirement.level_iff_reached`), and what a level adds are the requirements at
exactly that distance (`Requirement.distance_iff_level`). A course that was not stopped ends in the least
relation over its seed that is closed under both rules (`isLeast_last_requirementCourse`).

The inclusions are any relation here; nothing asks them to be saturated.
-/

namespace LoanCheck.Solver

namespace Requirement

/-- The stage that a course of requirements starts from. -/
abbrev firstStage (inclusions : Relation Inclusion) (steps : Relation Step) (kills : Relation Kill)
    (seed : Relation Requirement) : (requirementDeduction inclusions steps kills seed).Stage :=
  .start _ seed possible_requirement_of_mem

/-- The requirement is derived from one of the seed in `n` steps. -/
inductive Reached (inclusions : Relation Inclusion) (steps : Relation Step) (kills : Relation Kill)
    (seed : Relation Requirement) : ℕ → Requirement → Prop where
  | start {f : Requirement} : f ∈ seed → Reached inclusions steps kills seed 0 f
  | step {n : ℕ} {f g : Requirement} : Reached inclusions steps kills seed n f →
      Derives inclusions steps kills f g → Reached inclusions steps kills seed (n + 1) g

/-- The least number of steps that derive the requirement from the seed. -/
def Distance (inclusions : Relation Inclusion) (steps : Relation Step) (kills : Relation Kill)
    (seed : Relation Requirement) (f : Requirement) (n : ℕ) : Prop :=
  IsLeast {m | Reached inclusions steps kills seed m f} n

/-- A loan passes to the regions flowed into, and along every step from a point where it is not killed. -/
structure Closed (inclusions : Relation Inclusion) (steps : Relation Step) (kills : Relation Kill)
    (P : Set Requirement) : Prop where
  flow : ∀ {a b l p}, ⟨a, b, p⟩ ∈ inclusions → ⟨a, l, p⟩ ∈ P → ⟨b, l, p⟩ ∈ P
  carry : ∀ {a l p q}, ⟨p, q⟩ ∈ steps → ⟨l, p⟩ ∉ kills → ⟨a, l, p⟩ ∈ P → ⟨a, l, q⟩ ∈ P

variable {inclusions : Relation Inclusion} {steps : Relation Step} {kills : Relation Kill}
  {seed : Relation Requirement}

theorem closed_deduction_iff {P : Set Requirement} :
    (requirementDeduction inclusions steps kills seed).Closed (· ∈ P) ↔
      Closed inclusions steps kills P := by
  constructor
  · intro h
    exact ⟨fun hi ha => h _ _ _ ha ha ⟨rfl, .flow hi⟩,
      fun hs hk ha => h _ _ _ ha ha ⟨rfl, .carry hs hk⟩⟩
  · rintro h f g a hf - ⟨-, hd⟩
    cases hd with
    | flow hi => exact h.flow hi hf
    | carry hs hk => exact h.carry hs hk hf

/-! ## Levels and distances -/

theorem Reached.level {n : ℕ} {f : Requirement} (h : Reached inclusions steps kills seed n f) :
    (requirementDeduction inclusions steps kills seed).Level seed n f := by
  induction h with
  | start hf => exact hf
  | step _ hd ih => exact Or.inr ⟨_, _, ih, ih, rfl, hd⟩

theorem level_iff_reached (n : ℕ) (f : Requirement) :
    (requirementDeduction inclusions steps kills seed).Level seed n f ↔
      ∃ m ≤ n, Reached inclusions steps kills seed m f := by
  refine ⟨fun h => ?_, fun ⟨m, hm, h⟩ => h.level.mono hm⟩
  induction n generalizing f with
  | zero => exact ⟨0, le_rfl, .start h⟩
  | succ n ih =>
    rcases h with h | ⟨g, -, hg, -, -, hd⟩
    · obtain ⟨m, hm, h⟩ := ih f h
      exact ⟨m, hm.trans n.le_succ, h⟩
    · obtain ⟨m, hm, h⟩ := ih g hg
      exact ⟨m + 1, Nat.succ_le_succ hm, h.step hd⟩

/-- The requirements at distance `n` are those of level `n` and of none below. -/
theorem distance_iff_level (n : ℕ) (f : Requirement) :
    Distance inclusions steps kills seed f n ↔
      (requirementDeduction inclusions steps kills seed).Level seed n f ∧
        ∀ m < n, ¬(requirementDeduction inclusions steps kills seed).Level seed m f := by
  simp only [level_iff_reached]
  constructor
  · rintro ⟨hn, hleast⟩
    exact ⟨⟨n, le_rfl, hn⟩, fun m hm ⟨k, hk, h⟩ => absurd (hleast h) (by omega)⟩
  · rintro ⟨⟨m, hm, h⟩, hbelow⟩
    have hmn : m = n := hm.eq_or_lt.resolve_right fun hlt => hbelow m hlt ⟨m, le_rfl, h⟩
    subst hmn
    exact ⟨h, fun k hk => not_lt.1 fun hlt => hbelow k hlt ⟨k, le_rfl, hk⟩⟩

/-- A derived requirement has a distance. -/
theorem Reached.exists_distance {m : ℕ} {f : Requirement}
    (h : Reached inclusions steps kills seed m f) :
    ∃ n ≤ m, Distance inclusions steps kills seed f n := by
  classical
  have hex : ∃ n, Reached inclusions steps kills seed n f := ⟨m, h⟩
  exact ⟨Nat.find hex, Nat.find_min' hex h, Nat.find_spec hex, fun k hk => Nat.find_min' hex hk⟩

/-- The levels are the balls around the seed. -/
theorem level_iff_distance (n : ℕ) (f : Requirement) :
    (requirementDeduction inclusions steps kills seed).Level seed n f ↔
      ∃ m ≤ n, Distance inclusions steps kills seed f m := by
  rw [level_iff_reached]
  constructor
  · rintro ⟨m, hm, h⟩
    obtain ⟨k, hk, hdist⟩ := h.exists_distance
    exact ⟨k, hk.trans hm, hdist⟩
  · rintro ⟨m, hm, hdist⟩
    exact ⟨m, hm, hdist.1⟩

end Requirement

/-! ## Courses -/

section Course

variable {ε : Type} {inclusions : Relation Inclusion} {steps : Relation Step} {kills : Relation Kill}
  {seed : Relation Requirement} {gate : ℕ → Option ε}

theorem requirementCourse_covers : (Requirement.firstStage inclusions steps kills seed).Covers gate 0
    (requirementCourse inclusions steps kills seed gate) :=
  Deduction.course_covers gate 0 _

/-- A course of requirements that was not stopped ends in the least closed relation over its seed. -/
theorem isLeast_last_requirementCourse
    (h : (requirementCourse inclusions steps kills seed gate).stop = none) :
    IsLeast {P : Set Requirement | (∀ f ∈ seed, f ∈ P) ∧ Requirement.Closed inclusions steps kills P}
      {f | f ∈ (requirementCourse inclusions steps kills seed gate).last seed} := by
  simp only [← @Requirement.closed_deduction_iff inclusions steps kills seed]
  exact Deduction.isLeast_last_of_covers requirementCourse_covers h

end Course

end LoanCheck.Solver

import LoanCheck.Proofs.Solver.Allowances
import LoanCheck.Proofs.Solver.Walks
import Mathlib.Algebra.Group.Nat.Defs
import Mathlib.Data.Nat.Log

/-!
# How many passes saturation makes

A pass counts for one rule on every branch of a derivation, so saturation needs no more passes than its lowest
derivations are high, and one that finds nothing more.

An inclusion is a chain of given ones, each of them carried to its point. No link is carried over as many steps as there
are known points, and a chain needs no more links than there are regions in given inclusions. Composed half by half
(`exists_tree_of_chain`), the links add the logarithm of their number to the height (`FlowsAt.exists_tree_lt`).

A requirement is a borrow that is carried first and then passes once to another region, since the inclusions have been
composed before (`exists_requires_le`). So its saturation takes as many passes as there are points and one more,
whatever the number of regions and loans (`check_passes_le`).
-/

open Relation (ReflTransGen TransGen)

namespace LoanCheck.Solver

namespace Inputs

/-- The regions that given inclusions mention. -/
def includedRegions (i : Inputs) : Relation Region :=
  Relation.ofList (i.inclusions.toList.flatMap fun f => [f.sub, f.sup])

variable {i : Inputs} {a b r : Region} {l : Loan} {p q : Point} {m n : ℕ}

theorem mem_includedRegions {f : Inclusion} (h : f ∈ i.inclusions) :
    f.sub ∈ i.includedRegions ∧ f.sup ∈ i.includedRegions := by
  have hf := Std.ExtTreeSet.mem_toList.2 h
  simp only [includedRegions, Relation.mem_ofList, List.mem_flatMap]
  exact ⟨⟨f, hf, by simp⟩, ⟨f, hf, by simp⟩⟩

/-! ## Inclusions -/

/-- A given inclusion that leads to the point. -/
def LinksAt (i : Inputs) (p : Point) (a b : Region) : Prop :=
  ∃ y, ⟨a, b, y⟩ ∈ i.inclusions ∧ i.Leads y p

/-- Carrying an inclusion along a walk adds its steps to the height. -/
theorem LeadsIn.exists_tree (hwalk : i.LeadsIn n p q) (t : Inclusion.Tree i.steps i.inclusions a b p) :
    ∃ u : Inclusion.Tree i.steps i.inclusions a b q, u.height = t.height + n := by
  induction hwalk with
  | refl => exact ⟨t, rfl⟩
  | step hs _ ih =>
    obtain ⟨u, hu⟩ := ih (.carry hs t)
    refine ⟨u, ?_⟩
    rw [hu, Inclusion.Tree.height]
    omega

theorem LinksAt.exists_tree_lt (h : i.LinksAt p a b) :
    ∃ t : Inclusion.Tree i.steps i.inclusions a b p, t.height < i.knownPoints.length := by
  obtain ⟨y, hy, hleads⟩ := h
  obtain ⟨n, hn, hwalk⟩ := hleads.exists_lt (mem_knownPoints.2 (mentions_of_mem_inclusions hy).2.2)
  obtain ⟨t, ht⟩ := hwalk.exists_tree (.given hy)
  rw [Inclusion.Tree.height, Nat.zero_add] at ht
  exact ⟨t, ht ▸ hn⟩

/-- A chain of at most `2 ^ h` links is composed half by half, and `h` is added to the height. -/
theorem exists_tree_of_chain {h : ℕ} (hchain : Walk (i.LinksAt p) (n + 1) a b) (hn : n + 1 ≤ 2 ^ h) :
    ∃ t : Inclusion.Tree i.steps i.inclusions a b p, t.height < i.knownPoints.length + h := by
  induction h generalizing a b n with
  | zero =>
    obtain rfl : n = 0 := by simpa using hn
    cases hchain with
    | step hlink hrest =>
      cases hrest
      exact hlink.exists_tree_lt
  | succ h ih =>
    by_cases hshort : n + 1 ≤ 2 ^ h
    · obtain ⟨t, ht⟩ := ih hchain hshort
      exact ⟨t, by omega⟩
    · -- the first half is as long as it may be, the second half has what is left
      obtain ⟨m, hm⟩ : ∃ m, 2 ^ h = m + 1 := ⟨2 ^ h - 1, by have := Nat.two_pow_pos h; omega⟩
      obtain ⟨k, rfl⟩ : ∃ k, n = m + 1 + k := ⟨n - (m + 1), by omega⟩
      rw [Nat.add_assoc] at hchain
      obtain ⟨c, hfirst, hsecond⟩ := hchain.exists_of_add
      rw [Nat.pow_succ] at hn
      obtain ⟨t, ht⟩ := ih hfirst (by omega)
      obtain ⟨u, hu⟩ := ih hsecond (by omega)
      refine ⟨.compose t u, ?_⟩
      rw [Inclusion.Tree.height]
      omega

/-- Whatever flows at a point does so by a tree that is not higher than the points are many and the regions deep. -/
theorem FlowsAt.exists_tree_lt (h : i.FlowsAt p a b) :
    ∃ t : Inclusion.Tree i.steps i.inclusions a b p,
      t.height < i.knownPoints.length + Nat.clog 2 i.includedRegions.size := by
  obtain ⟨c, hac, hcb⟩ := TransGen.head'_iff.1 h
  have hregion : ∀ {a b}, i.LinksAt p a b → b ∈ i.includedRegions.toList := fun ⟨_, hy, _⟩ =>
    Std.ExtTreeSet.mem_toList.2 (mem_includedRegions hy).2
  obtain ⟨n, hn, hwalk⟩ := exists_walk_lt_length (hregion hac) (fun _ _ hlink => hregion hlink) hcb
  rw [Std.ExtTreeSet.length_toList] at hn
  exact exists_tree_of_chain (.step hac hwalk) (hn.trans_le (Nat.le_pow_clog Nat.one_lt_two _))

theorem exists_tree_lt (t : Inclusion.Tree i.steps i.inclusions a b p) :
    ∃ t : Inclusion.Tree i.steps i.inclusions a b p,
      t.height < i.knownPoints.length + Nat.clog 2 i.includedRegions.size :=
  FlowsAt.exists_tree_lt ((mem_inclusionClosure_iff i ⟨a, b, p⟩).1 (mem_inclusionClosure_iff_tree.2 ⟨t⟩))

theorem passes_inclusions_le (h : i.inclusions ≠ ∅) :
    i.passCounts.inclusions ≤ i.knownPoints.length + Nat.clog 2 i.includedRegions.size := by
  obtain ⟨f, hf⟩ := not_forall_not.1 (mt Std.ExtTreeSet.eq_empty_iff_forall_not_mem.2 h)
  have hpoint : f.point ∈ i.knownPoints := mem_knownPoints.2 (mentions_of_mem_inclusions hf).2.2
  have hpos := List.length_pos_of_mem hpoint
  have hrounds : i.inclusionCourse.rounds.length ≤
      i.knownPoints.length + Nat.clog 2 i.includedRegions.size - 1 := by
    refine length_inclusionCourse_le_iff.2 fun a b p ⟨t⟩ => ?_
    obtain ⟨u, hu⟩ := exists_tree_lt t
    exact ⟨u, by omega⟩
  rw [inclusions_passCounts]
  omega

/-! ## Requirements -/

theorem Requires.carriesIn (h : i.Requires m r l p) (hwalk : i.CarriesIn l n p q) : i.Requires (m + n) r l q := by
  induction hwalk generalizing m with
  | refl => exact h
  | step hs _ ih =>
    rw [Nat.add_comm _ 1, ← Nat.add_assoc]
    exact ih (.carry h hs.1 hs.2)

/-- One region step at the end is enough for a requirement. -/
theorem exists_requires_le (h : i.Requires m r l p) : ∃ n ≤ i.knownPoints.length, i.Requires n r l p := by
  have hmem : ⟨r, l, p⟩ ∈ i.requirementClosure := mem_requirementClosure_iff_requires.2 ⟨m, h⟩
  obtain ⟨r₀, p₀, hborrow, hcarries, hflow⟩ := (mem_requirementClosure_iff i _).1 hmem
  obtain ⟨n, hn, hwalk⟩ := hcarries.exists_lt (mem_knownPoints.2 (mentions_of_mem_borrows hborrow).2.2)
  have hcarried : i.Requires n r₀ l p := by
    have := (Requires.borrow hborrow).carriesIn hwalk
    rwa [Nat.zero_add] at this
  rcases hflow with hr | hflow
  · obtain rfl : r = r₀ := hr
    exact ⟨n, hn.le, hcarried⟩
  · obtain ⟨t⟩ := mem_inclusionClosure_iff_tree.1 ((mem_inclusionClosure_iff i ⟨r₀, r, p⟩).2 hflow)
    exact ⟨n + 1, hn, .flow hcarried t⟩

theorem passes_requirements_le (i : Inputs) : i.passCounts.requirements ≤ i.knownPoints.length + 1 := by
  rw [requirements_passCounts, Nat.add_le_add_iff_right]
  exact length_requirementCourse_le_iff.2 fun m r l p h => exists_requires_le h

/-! ## Budgets -/

theorem endsWithin_of_le {n : ℤ}
    (h : (i.knownPoints.length + 1 + Nat.clog 2 (max i.includedRegions.size 1) : ℕ) ≤ n) : i.EndsWithin n := by
  have hclog : Nat.clog 2 i.includedRegions.size ≤ Nat.clog 2 (max i.includedRegions.size 1) :=
    Nat.clog_mono_right 2 (le_max_left _ _)
  refine ⟨by omega, fun t => ?_, fun hreq => ?_⟩
  · obtain ⟨u, hu⟩ := exists_tree_lt t
    exact ⟨u, by omega⟩
  · obtain ⟨k, hk, hreq⟩ := exists_requires_le hreq
    exact ⟨k, by omega, hreq⟩

end Inputs

/-- A check without limits ends. The saturation of requirements makes at most one pass more than there are known points,
and that of inclusions, if any are given, at most as many as there are known points and the logarithm of the number of
their regions, rounded up. So a check without a time limit ends with the same result if its limit of passes, if it has
one, is at least the number of points, one, and this logarithm together. -/
theorem check_passes_le (i : Inputs) (clock : Clock) :
    ∃ result, (check i {} clock).outcome = .ok result ∧
      result.passes.requirements ≤ i.knownPoints.length + 1 ∧
      (i.inclusions ≠ ∅ →
        result.passes.inclusions ≤ i.knownPoints.length + Nat.clog 2 i.includedRegions.size) ∧
      ∀ (budget : Budget) (clock' : Clock), budget.timeout = none →
        (∀ n, budget.maxPasses = some n →
          (i.knownPoints.length + 1 + Nat.clog 2 (max i.includedRegions.size 1) : ℕ) ≤ n) →
        (check i budget clock').outcome = .ok result := by
  have hunlimited : i.Fits {} clock := (i.fits_iff_endsWithin rfl clock).2 nofun
  refine ⟨i.result, check_outcome_of_fits hunlimited, i.passes_requirements_le, Inputs.passes_inclusions_le, ?_⟩
  intro budget clock' htimeout hmax
  exact check_outcome_of_fits ((i.fits_iff_endsWithin htimeout clock').2 fun n hn => Inputs.endsWithin_of_le (hmax n hn))

/-- Two points and two regions that flow into each other. Both saturations make three passes, as many as the bounds
allow. -/
example :
    let inputs : Inputs :=
      { steps := .ofList [⟨0, 1⟩]
        inclusions := .ofList [⟨0, 1, 0⟩, ⟨1, 0, 0⟩]
        borrows := .ofList [⟨0, 0, 0⟩] }
    (check inputs {} ⟨fun _ => 0, 0⟩).outcome.toOption.map (·.passes) = some ⟨3, 3⟩ := by
  decide +kernel

end LoanCheck.Solver

import LoanCheck.Proofs.Solver.Separation

/-!
# Explanations of violations

A violation is explained by following the record of premises back to a borrow (`Provenance.Follows`). A check without
limits records enough for every explanation to end there, and as premises are one step nearer to the borrows each,
what is followed is a shortest derivation.

A shortest derivation passes from one region to another at most once (`Traced.exists_borrow`). If it did so twice, the
first inclusion would be carried to the point of the second and compose with it there, and the loan would be required
one step earlier. So a chain of regions has the region that borrowed and the one that is live, and none in between
(`check_explanations`).
-/

namespace LoanCheck.Solver

/-- Going from premise to premise, until there is none. -/
inductive Provenance.Follows (p : Provenance) : Requirement → List Requirement → Prop where
  | stop {f : Requirement} : p[f]? = none → Follows p f [f]
  | step {f g : Requirement} {trace : List Requirement} : p[f]? = some g → Follows p g trace →
      Follows p f (f :: trace)

theorem Provenance.exists_trace_eq_cons (p : Provenance) (f : Requirement) : ∃ rest, p.trace f = f :: rest := by
  unfold trace
  cases p.size with
  | zero => exact ⟨[], rfl⟩
  | succ n =>
    unfold traceWithin
    cases p[f]? with
    | none => exact ⟨[], rfl⟩
    | some g => exact ⟨_, rfl⟩

namespace Inputs

variable {i : Inputs} {f seed : Requirement} {n : ℕ} {trace : List Requirement}

/-! ## Traces -/

/-- The trace of a requirement at distance `n`: a borrow alone, or a requirement in front of the trace of its
premise. -/
inductive Traced (i : Inputs) : ℕ → Requirement → List Requirement → Prop where
  | borrow {f : Requirement} : f ∈ i.borrows → Traced i 0 f [f]
  | step {n : ℕ} {f g : Requirement} {trace : List Requirement} : i.Distance f (n + 1) →
      i.premises[f]? = some g → i.Gives g f → Traced i n g (g :: trace) →
      Traced i (n + 1) f (f :: g :: trace)

theorem traced_trace (hf : i.Distance f n) : i.Traced n f (i.premises.trace f) := by
  induction n generalizing f with
  | zero =>
    have hborrow := distance_zero_iff.1 hf
    rw [trace_of_mem_borrows hborrow]
    exact .borrow hborrow
  | succ n ih =>
    obtain ⟨g, hg, hdist, hgive, -⟩ := exists_premise hf
    obtain ⟨rest, hrest⟩ := i.premises.exists_trace_eq_cons g
    rw [trace_eq_cons hf hg, hrest]
    exact .step hf hg hgive (hrest ▸ ih hdist)

namespace Traced

theorem distance (h : i.Traced n f trace) : i.Distance f n := by
  cases h with
  | borrow hf => exact distance_zero_iff.2 hf
  | step hf => exact hf

theorem follows (h : i.Traced n f trace) : i.premises.Follows f trace := by
  induction h with
  | borrow hf => exact .stop (premises_of_mem_borrows hf)
  | step _ hg _ _ ih => exact .step hg ih

theorem length_eq (h : i.Traced n f trace) : trace.length = n + 1 := by
  induction h with
  | borrow => rfl
  | step _ _ _ _ ih => rw [List.length_cons, ih]

theorem isChain (h : i.Traced n f trace) : trace.IsChain fun g f => i.Gives f g := by
  induction h with
  | borrow => exact .singleton _
  | step _ _ hgive _ ih => exact .cons_cons hgive ih

end Traced

/-! ## Chains of regions -/

/-- The regions on the way from a requirement at distance `n` back to its borrow. -/
inductive Chained (i : Inputs) (f seed : Requirement) (n : ℕ) : List Region → Prop where
  /-- The loan stays with its region. -/
  | carried : f.region = seed.region → Chained i f seed n [f.region]
  /-- The loan passes to another region once, and is required by its own region sooner. -/
  | flowed {m : ℕ} : f.region ≠ seed.region → ⟨seed.region, f.region, f.point⟩ ∈ i.inclusionClosure →
      Requirement.Reached i.inclusionClosure i.steps i.kills i.borrows m ⟨seed.region, f.loan, f.point⟩ →
      m < n → Chained i f seed n [f.region, seed.region]

section Chained

variable {a b : Region} {l : Loan} {p q : Point} {regions : List Region}

theorem mem_inclusionClosure_compose {c : Region} (hab : ⟨a, b, p⟩ ∈ i.inclusionClosure)
    (hbc : ⟨b, c, p⟩ ∈ i.inclusionClosure) : ⟨a, c, p⟩ ∈ i.inclusionClosure := by
  rw [mem_inclusionClosure_iff] at hab hbc ⊢
  exact hab.trans hbc

theorem mem_inclusionClosure_carry (hs : ⟨p, q⟩ ∈ i.steps) (hab : ⟨a, b, p⟩ ∈ i.inclusionClosure) :
    ⟨a, b, q⟩ ∈ i.inclusionClosure := by
  rw [mem_inclusionClosure_iff] at hab ⊢
  exact hab.step hs

theorem Chained.carry (hs : ⟨p, q⟩ ∈ i.steps) (hk : ⟨l, p⟩ ∉ i.kills)
    (h : i.Chained ⟨a, l, p⟩ seed n regions) : i.Chained ⟨a, l, q⟩ seed (n + 1) regions := by
  cases h with
  | carried hregion => exact .carried hregion
  | flowed hregion hinc hreached hlt =>
    exact .flowed hregion (mem_inclusionClosure_carry hs hinc) (hreached.step (.carry hs hk))
      (Nat.succ_lt_succ hlt)

/-- A loan that has passed to another region does not pass on in a shortest derivation. -/
theorem Chained.flow (hab : ⟨a, b, p⟩ ∈ i.inclusionClosure) (hne : b ≠ a)
    (ha : i.Distance ⟨a, l, p⟩ n) (hb : i.Distance ⟨b, l, p⟩ (n + 1))
    (h : i.Chained ⟨a, l, p⟩ seed n regions) : i.Chained ⟨b, l, p⟩ seed (n + 1) (b :: regions) := by
  cases h with
  | carried hregion =>
    obtain rfl : a = seed.region := hregion
    exact .flowed hne hab ha.1 n.lt_succ_self
  | @flowed m hregion hinc hreached hlt =>
    have hsooner := hreached.step (.flow (mem_inclusionClosure_compose hinc hab))
    have hleast : n + 1 ≤ m + 1 := hb.2 hsooner
    omega

end Chained

/-- A trace ends at a borrow that is carried to the point of the requirement, and has at most two regions. -/
theorem Traced.exists_borrow (h : i.Traced n f trace) :
    ∃ seed ∈ i.borrows, trace.getLast? = some seed ∧ seed.loan = f.loan ∧
      i.Carries f.loan seed.point f.point ∧
      i.Chained f seed n (dedupAdjacent (trace.map (·.region))) := by
  induction h with
  | @borrow f hf => exact ⟨f, hf, rfl, rfl, .refl, .carried rfl⟩
  | @step n f g trace hf hg hgive hg' ih =>
    obtain ⟨seed, hseed, hlast, hloan, hcarries, hchain⟩ := ih
    refine ⟨seed, hseed, by simpa using hlast, hloan.trans hgive.loan_eq, ?_⟩
    simp only [List.map_cons, dedupAdjacent] at hchain ⊢
    cases hgive with
    | @flow a b l p hab =>
      have hne : b ≠ a := by
        rintro rfl
        exact absurd (hf.unique hg'.distance) n.succ_ne_self
      rw [if_neg hne]
      exact ⟨hcarries, hchain.flow hab hne hg'.distance hf⟩
    | carry hs hk =>
      rw [if_pos rfl]
      exact ⟨hcarries.tail ⟨hs, hk⟩, hchain.carry hs hk⟩

end Inputs

/-! ## Violations -/

theorem checker_check_unlimited (i : Inputs) (clock : Clock) :
    (check i {} clock).checker = Checker.saturated i := by
  obtain ⟨hchecker, passes, hpasses⟩ := Checker.saturate_unlimited i (clock.advance 1)
  simp only [check, Checker.run, hpasses, hchecker]

/-- A violation is the explanation of a requirement. -/
theorem Checker.explain_of_mem_violations {c : Checker} {v : Violation} (hv : v ∈ c.violations) :
    ⟨v.region, v.loan, v.point⟩ ∈ c.requirements ∧
      v = c.explain (Successors.of c.inputs.steps) v.region v.loan v.point := by
  obtain ⟨-, hr, hexplain⟩ := of_mem_violations hv
  exact ⟨mem_of_requiringRegion? hr, hexplain.symm⟩

/-- The chain of regions, read from the borrow on. -/
theorem Inputs.Chained.chain_eq {i : Inputs} {f seed : Requirement} {n : ℕ} {regions : List Region}
    (h : i.Chained f seed n regions) :
    regions.reverse.head? = some seed.region ∧ regions.reverse.getLast? = some f.region ∧
      (regions.reverse = [f.region] ∨ regions.reverse = [seed.region, f.region] ∧
        seed.region ≠ f.region ∧ ⟨seed.region, f.region, f.point⟩ ∈ i.inclusionClosure) := by
  cases h with
  | carried hregion => exact ⟨congrArg some hregion, rfl, .inl rfl⟩
  | flowed hregion hinc => exact ⟨rfl, rfl, .inr ⟨rfl, hregion.symm, hinc⟩⟩

/-- Every violation that a check without limits reports is explained. Going from premise to premise ends at a borrow of
the loan, and is a shortest derivation of what it starts from. The borrow is the one that the violation names; it is
carried to the point of the violation along steps that leave no point where the loan is killed. The chain has the
region that is live alone, if it is the one that borrowed; or both, if the one that borrowed flows into it there. -/
theorem check_explanations (i : Inputs) (clock : Clock) :
    ∃ result, (check i {} clock).outcome = .ok result ∧ ∀ v ∈ result.violations, ∃ trace r₀ p₀,
      (check i {} clock).checker.provenance.Follows ⟨v.region, v.loan, v.point⟩
        (trace ++ [⟨r₀, v.loan, p₀⟩]) ∧
      ⟨r₀, v.loan, p₀⟩ ∈ i.borrows ∧ v.borrowPoint = some p₀ ∧ i.Carries v.loan p₀ v.point ∧
      (trace ++ [⟨r₀, v.loan, p₀⟩]).IsChain
        (fun g f => Requirement.Derives result.inclusions i.steps i.kills f g) ∧
      IsLeast {n | Requirement.Reached result.inclusions i.steps i.kills i.borrows n
        ⟨v.region, v.loan, v.point⟩} trace.length ∧
      v.chain.head? = some r₀ ∧ v.chain.getLast? = some v.region ∧
      (v.chain = [v.region] ∨
        v.chain = [r₀, v.region] ∧ r₀ ≠ v.region ∧ ⟨r₀, v.region, v.point⟩ ∈ result.inclusions) := by
  obtain ⟨passes, hcheck⟩ := check_unlimited i clock
  refine ⟨_, hcheck, fun v hv => ?_⟩
  obtain ⟨hmem, hexplain⟩ := Checker.explain_of_mem_violations hv
  obtain ⟨n, hn⟩ := Inputs.mem_requirementClosure_iff_distance.1 hmem
  have htraced := Inputs.traced_trace hn
  obtain ⟨⟨r₀, l, p₀⟩, hborrow, hlast, hloan, hcarries, hchained⟩ := htraced.exists_borrow
  obtain rfl : l = v.loan := hloan
  have htrace := List.dropLast_append_getLast? _ hlast
  have hlength : (i.premises.trace ⟨v.region, v.loan, v.point⟩).dropLast.length = n := by
    rw [List.length_dropLast, htraced.length_eq, Nat.add_sub_cancel]
  have hpoint : v.borrowPoint = some p₀ := by
    rw [hexplain]
    show ((i.premises.trace _).getLast?.filter (· ∈ i.borrows)).map (·.point) = some p₀
    rw [hlast, Option.filter_some, if_pos (by simpa using hborrow), Option.map_some]
  have hchain : v.chain = (dedupAdjacent ((i.premises.trace ⟨v.region, v.loan, v.point⟩).map
      (·.region))).reverse := by
    rw [hexplain]
    rfl
  refine ⟨_, r₀, p₀, ?_, hborrow, hpoint, hcarries, htrace ▸ htraced.isChain, hlength ▸ hn, ?_⟩
  · rw [checker_check_unlimited, htrace]
    exact htraced.follows
  · rw [hchain]
    exact hchained.chain_eq

/-- A loan goes from region 0 through region 1 into region 2. The chain leaves out region 1. -/
example :
    let inputs : Inputs :=
      { inclusions := .ofList [⟨0, 1, 0⟩, ⟨1, 2, 0⟩]
        borrows := .ofList [⟨0, 0, 0⟩]
        live := .ofList [⟨2, 0⟩]
        invalidations := .ofList [⟨0, 0⟩] }
    (check inputs {} ⟨fun _ => 0, 0⟩).outcome.toOption.map (·.violations.map (·.chain)) = some [[0, 2]] := by
  decide +kernel

end LoanCheck.Solver

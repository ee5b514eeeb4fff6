import LoanCheck.Proofs.Solver.Traces
import Mathlib.Data.List.Sort

/-!
# Loans do not meet

All loans share one relation, one course of passes and one record of premises. Still, a loan is explained by
its own facts: rules lead from a requirement of a loan to requirements of the same loan only, so distances
(`Inputs.AgreeOn.distance_iff`) and premises (`Inputs.AgreeOn.premises_eq`) of its requirements are the same
whatever is known of the others, and so are traces (`Inputs.AgreeOn.trace_eq`), although the records differ in
size. `Checker.violations_of_loan` picks the reports of one loan out of all, and `check_violations_of_agreeOn`
says that two inputs that agree on a loan have the same reports of it.
-/

namespace LoanCheck.Solver

/-! ## The reports of one loan -/

theorem mem_of_requiringRegion? {requirements : Relation Requirement} {live : Relation Liveness}
    {l : Loan} {p : Point} {r : Region} (h : requiringRegion? requirements live l p = some r) :
    ⟨r, l, p⟩ ∈ requirements := by
  obtain ⟨⟨r', p'⟩, hfind, rfl⟩ := Option.map_eq_some_iff.1 h
  have := List.find?_some hfind
  simp only [Bool.and_eq_true, Std.ExtTreeSet.contains_iff_mem] at this
  exact this.2

namespace Inputs

theorem nodup_loansInvalidatedAt (i : Inputs) (p : Point) : (i.loansInvalidatedAt p).Nodup := by
  refine List.Nodup.map_on ?_ (i.invalidations.nodup_toList.filter _)
  rintro ⟨p₁, l₁⟩ h₁ ⟨p₂, l₂⟩ h₂ rfl
  have h₁ := (List.mem_filter.1 h₁).2
  have h₂ := (List.mem_filter.1 h₂).2
  simp_all

/-- The points where the loan is invalidated, ascending. -/
def pointsInvalidating (i : Inputs) (l : Loan) : List Point :=
  i.invalidationPoints.filter fun p => ⟨p, l⟩ ∈ i.invalidations

theorem mem_pointsInvalidating {i : Inputs} {l : Loan} {p : Point} :
    p ∈ i.pointsInvalidating l ↔ ⟨p, l⟩ ∈ i.invalidations := by
  rw [pointsInvalidating, List.mem_filter, mem_invalidationPoints, decide_eq_true_eq]
  exact ⟨fun h => h.2, fun h => ⟨⟨l, h⟩, h⟩⟩

theorem pairwise_lt_pointsInvalidating (i : Inputs) (l : Loan) :
    (i.pointsInvalidating l).Pairwise (· < ·) := by
  refine List.Pairwise.filter _ (Std.ExtTreeSet.ordered_toList.imp fun h => ?_)
  exact Int.compare_eq_lt.1 h

end Inputs

namespace Checker

/-- What is reported of a loan at a point that invalidates it. -/
def report (c : Checker) (l : Loan) (p : Point) : Option Violation :=
  (requiringRegion? c.requirements c.inputs.live l p).map fun region =>
    c.explain (Successors.of c.inputs.steps) region l p

theorem violationsAlong_of_loan (c : Checker) (l : Loan) (p : Point) :
    (c.violationsAlong (Successors.of c.inputs.steps) p).filter (·.loan = l) =
      if ⟨p, l⟩ ∈ c.inputs.invalidations then (c.report l p).toList else [] := by
  have hreport : ∀ l', Option.filter (·.loan = l) (c.report l' p) =
      if l' = l then c.report l' p else none := by
    intro l'
    rw [report]
    cases requiringRegion? c.requirements c.inputs.live l' p with
    | none => simp
    | some region => by_cases hl : l' = l <;> simp [explain, hl]
  calc (c.violationsAlong (Successors.of c.inputs.steps) p).filter (·.loan = l)
      = (c.inputs.loansInvalidatedAt p).filterMap
          fun l' => Option.filter (·.loan = l) (c.report l' p) := List.filter_filterMap
    _ = ((c.inputs.loansInvalidatedAt p).filter (· = l)).filterMap fun l' => c.report l' p := by
        simp only [hreport, List.filterMap_filter, decide_eq_true_eq]
    _ = if ⟨p, l⟩ ∈ c.inputs.invalidations then (c.report l p).toList else [] := by
        rw [List.filter_eq, (c.inputs.nodup_loansInvalidatedAt p).count]
        simp only [Inputs.mem_loansInvalidatedAt]
        split
        · cases hr : c.report l p <;> simp [hr]
        · rfl

/-- The reports of a loan are those at the points that invalidate it, in their order. -/
theorem violations_of_loan (c : Checker) (l : Loan) :
    c.violations.filter (·.loan = l) = (c.inputs.pointsInvalidating l).filterMap (c.report l) := by
  rw [violations, List.filter_flatMap, Inputs.pointsInvalidating, List.filterMap_filter,
    List.filterMap_eq_flatMap_toList]
  refine congrArg (c.inputs.invalidationPoints.flatMap ·) (funext fun p => ?_)
  rw [violationsAlong_of_loan]
  by_cases hp : ⟨p, l⟩ ∈ c.inputs.invalidations <;> simp [hp]

end Checker

/-! ## Inputs that agree on a loan -/

namespace Inputs

/-- The inputs have the same steps, inclusions and live regions, and the same facts about the loan. -/
structure AgreeOn (l : Loan) (i j : Inputs) : Prop where
  steps : i.steps = j.steps
  inclusions : i.inclusions = j.inclusions
  live : i.live = j.live
  borrows : ∀ r p, ⟨r, l, p⟩ ∈ i.borrows ↔ ⟨r, l, p⟩ ∈ j.borrows
  kills : ∀ p, ⟨l, p⟩ ∈ i.kills ↔ ⟨l, p⟩ ∈ j.kills
  invalidations : ∀ p, ⟨p, l⟩ ∈ i.invalidations ↔ ⟨p, l⟩ ∈ j.invalidations

variable {l : Loan} {i j : Inputs} {f g : Requirement} {n : ℕ}

theorem Gives.loan_eq (h : i.Gives f g) : f.loan = g.loan := by
  cases h <;> rfl

namespace AgreeOn

theorem symm (h : AgreeOn l i j) : AgreeOn l j i :=
  ⟨h.steps.symm, h.inclusions.symm, h.live.symm, fun r p => (h.borrows r p).symm,
    fun p => (h.kills p).symm, fun p => (h.invalidations p).symm⟩

theorem mem_borrows_iff (h : AgreeOn l i j) (hf : f.loan = l) : f ∈ i.borrows ↔ f ∈ j.borrows := by
  subst hf
  exact h.borrows f.region f.point

theorem inclusionClosure_eq (h : AgreeOn l i j) : i.inclusionClosure = j.inclusionClosure := by
  rw [inclusionClosure, inclusionClosure, h.steps, h.inclusions]

theorem gives (h : AgreeOn l i j) (hf : f.loan = l) (hg : i.Gives f g) : j.Gives f g := by
  cases hg with
  | flow hinc =>
    rw [h.inclusionClosure_eq] at hinc
    exact .flow hinc
  | carry hstep hkill =>
    subst hf
    rw [h.steps] at hstep
    exact .carry hstep (mt (h.kills _).2 hkill)

/-- The rules stay with a loan, so a path to one of its requirements is made of its own facts. -/
theorem reached (h : AgreeOn l i j) (hf : f.loan = l)
    (hn : Requirement.Reached i.inclusionClosure i.steps i.kills i.borrows n f) :
    Requirement.Reached j.inclusionClosure j.steps j.kills j.borrows n f := by
  induction hn with
  | start hmem => exact .start ((h.mem_borrows_iff hf).1 hmem)
  | step _ hd ih =>
    have hloan := (Gives.loan_eq hd).trans hf
    exact .step (ih hloan) (h.gives hloan hd)

theorem distance_iff (h : AgreeOn l i j) (hf : f.loan = l) : i.Distance f n ↔ j.Distance f n := by
  have hreached : ∀ m, Requirement.Reached i.inclusionClosure i.steps i.kills i.borrows m f ↔
      Requirement.Reached j.inclusionClosure j.steps j.kills j.borrows m f :=
    fun m => ⟨h.reached hf, h.symm.reached hf⟩
  simp only [Distance, Requirement.Distance, hreached]

theorem mem_requirementClosure_iff (h : AgreeOn l i j) (hf : f.loan = l) :
    f ∈ i.requirementClosure ↔ f ∈ j.requirementClosure := by
  simp only [mem_requirementClosure_iff_distance, h.distance_iff hf]

/-- The least of the same possible premises is the same. -/
theorem premises_eq (h : AgreeOn l i j) (hf : f.loan = l) (hn : i.Distance f n) :
    i.premises[f]? = j.premises[f]? := by
  cases n with
  | zero =>
    have hmem := distance_zero_iff.1 hn
    rw [premises_of_mem_borrows hmem, premises_of_mem_borrows ((h.mem_borrows_iff hf).1 hmem)]
  | succ n =>
    obtain ⟨g, hg, hdist, hgive, hleast⟩ := exists_premise hn
    obtain ⟨g', hg', hdist', hgive', hleast'⟩ := exists_premise ((h.distance_iff hf).1 hn)
    have hloan := hgive.loan_eq.trans hf
    have hloan' := hgive'.loan_eq.trans hf
    have hle := hleast g' ((h.distance_iff hloan').2 hdist') (h.symm.gives hloan' hgive')
    have hge := hleast' g ((h.distance_iff hloan).1 hdist) (h.gives hloan hgive)
    have heq : g = g' :=
      Std.LawfulEqCmp.compare_eq_iff_eq.1 (Std.OrientedCmp.isLE_antisymm hle hge)
    rw [hg, hg', heq]

/-- Traces have the same entries, however large the records are. -/
theorem trace_eq (h : AgreeOn l i j) (hf : f.loan = l) (hn : i.Distance f n) :
    i.premises.trace f = j.premises.trace f := by
  induction n generalizing f with
  | zero =>
    have hmem := distance_zero_iff.1 hn
    rw [trace_of_mem_borrows hmem, trace_of_mem_borrows ((h.mem_borrows_iff hf).1 hmem)]
  | succ n ih =>
    obtain ⟨g, hg, hdist, hgive, -⟩ := exists_premise hn
    have hg' : j.premises[f]? = some g := (h.premises_eq hf hn).symm.trans hg
    rw [trace_eq_cons hn hg, trace_eq_cons ((h.distance_iff hf).1 hn) hg',
      ih (hgive.loan_eq.trans hf) hdist]

end AgreeOn

/-- A trace stays with the loan of its requirement. -/
theorem loan_of_mem_trace (hn : i.Distance f n) (hg : g ∈ i.premises.trace f) : g.loan = f.loan := by
  induction n generalizing f with
  | zero =>
    rw [trace_of_mem_borrows (distance_zero_iff.1 hn), List.mem_singleton] at hg
    rw [hg]
  | succ n ih =>
    obtain ⟨f', hf', hdist, hgive, -⟩ := exists_premise hn
    rw [trace_eq_cons hn hf', List.mem_cons] at hg
    rcases hg with rfl | hg
    · rfl
    · exact (ih hdist hg).trans hgive.loan_eq

/-! ## Reports -/

namespace AgreeOn

theorem requiringRegion?_eq (h : AgreeOn l i j) (p : Point) :
    requiringRegion? i.requirementClosure i.live l p =
      requiringRegion? j.requirementClosure j.live l p := by
  have hmem : ∀ r, i.requirementClosure.contains ⟨r, l, p⟩ =
      j.requirementClosure.contains ⟨r, l, p⟩ := by
    intro r
    rw [Bool.eq_iff_iff, Std.ExtTreeSet.contains_iff_mem, Std.ExtTreeSet.contains_iff_mem]
    exact h.mem_requirementClosure_iff rfl
  have hpred : (fun f : Liveness =>
      decide (f.point = p) && i.requirementClosure.contains ⟨f.region, l, p⟩) =
      fun f => decide (f.point = p) && j.requirementClosure.contains ⟨f.region, l, p⟩ :=
    funext fun f => by rw [hmem]
  rw [requiringRegion?, requiringRegion?, h.live, hpred]

/-- The search for the next use meets the same sights. -/
theorem sight_eq (h : AgreeOn l i j) (r : Region) (p : Point) :
    (Checker.saturated i).sight r l p = (Checker.saturated j).sight r l p := by
  funext q
  have hreq : ⟨r, l, q⟩ ∈ i.requirementClosure ↔ ⟨r, l, q⟩ ∈ j.requirementClosure :=
    h.mem_requirementClosure_iff rfl
  have hlive : ⟨r, q⟩ ∈ i.live ↔ ⟨r, q⟩ ∈ j.live := by rw [h.live]
  exact if_congr (or_congr_right (not_congr hreq)) rfl
    (if_congr hlive rfl (if_congr (h.kills q) rfl rfl))

theorem nextUse_eq (h : AgreeOn l i j) (next : Successors) (r : Region) (p : Point) :
    (Checker.saturated i).nextUse next r l p = (Checker.saturated j).nextUse next r l p := by
  refine if_congr (h.kills p) rfl ?_
  rw [h.sight_eq]

theorem explain_eq (h : AgreeOn l i j) (next : Successors) {r : Region} {p : Point}
    (hmem : ⟨r, l, p⟩ ∈ i.requirementClosure) :
    (Checker.saturated i).explain next r l p = (Checker.saturated j).explain next r l p := by
  obtain ⟨n, hn⟩ := mem_requirementClosure_iff_distance.1 hmem
  have htrace : i.premises.trace ⟨r, l, p⟩ = j.premises.trace ⟨r, l, p⟩ := h.trace_eq rfl hn
  have hborrow : (i.premises.trace ⟨r, l, p⟩).getLast?.filter (· ∈ i.borrows) =
      (j.premises.trace ⟨r, l, p⟩).getLast?.filter (· ∈ j.borrows) := by
    rw [← htrace]
    cases hlast : (i.premises.trace ⟨r, l, p⟩).getLast? with
    | none => rfl
    | some g =>
      have hg := h.mem_borrows_iff (loan_of_mem_trace hn (List.mem_of_getLast? hlast))
      rw [Option.filter_some, Option.filter_some]
      exact if_congr (by simpa using hg) rfl rfl
  rw [Checker.explain, Checker.explain, Violation.mk.injEq]
  refine ⟨rfl, rfl, rfl, congrArg (Option.map (·.point)) hborrow, h.nextUse_eq next r p, ?_⟩
  exact congrArg (fun trace => (dedupAdjacent (trace.map (·.region))).reverse) htrace

theorem report_eq (h : AgreeOn l i j) (p : Point) :
    (Checker.saturated i).report l p = (Checker.saturated j).report l p := by
  have hreport : ∀ k : Inputs, (Checker.saturated k).report l p =
      (requiringRegion? k.requirementClosure k.live l p).map fun r =>
        (Checker.saturated k).explain (Successors.of k.steps) r l p := fun k => rfl
  rw [hreport, hreport, ← h.requiringRegion?_eq, ← h.steps]
  cases hr : requiringRegion? i.requirementClosure i.live l p with
  | none => rfl
  | some r => exact congrArg some (h.explain_eq _ (mem_of_requiringRegion? hr))

theorem pointsInvalidating_eq (h : AgreeOn l i j) : i.pointsInvalidating l = j.pointsInvalidating l := by
  have hi := (i.pairwise_lt_pointsInvalidating l).sortedLT
  have hj := (j.pairwise_lt_pointsInvalidating l).sortedLT
  refine hi.eq_of_mem_iff hj fun p => ?_
  rw [mem_pointsInvalidating, mem_pointsInvalidating, h.invalidations]

end AgreeOn

end Inputs

/-- Loans do not interfere. Let two inputs have the same steps, inclusions and live regions, and the same
borrows, kills and invalidations of a loan. Checks without limits end on both, and report the same violations of
the loan with the same explanations, whatever the inputs say of other loans. -/
theorem check_violations_of_agreeOn {l : Loan} {i j : Inputs} (h : Inputs.AgreeOn l i j)
    (clock clock' : Clock) :
    ∃ result result', (check i {} clock).outcome = .ok result ∧
      (check j {} clock').outcome = .ok result' ∧
      result.violations.filter (·.loan = l) = result'.violations.filter (·.loan = l) := by
  obtain ⟨_, hi⟩ := check_unlimited i clock
  obtain ⟨_, hj⟩ := check_unlimited j clock'
  refine ⟨_, _, hi, hj, ?_⟩
  calc (Checker.saturated i).violations.filter (·.loan = l)
      = (i.pointsInvalidating l).filterMap ((Checker.saturated i).report l) :=
        (Checker.saturated i).violations_of_loan l
    _ = (j.pointsInvalidating l).filterMap ((Checker.saturated j).report l) := by
        rw [h.pointsInvalidating_eq, funext h.report_eq]
    _ = (Checker.saturated j).violations.filter (·.loan = l) :=
        ((Checker.saturated j).violations_of_loan l).symm

/-- A loan that flows into a region live where it is invalidated, alone and beside another loan with borrows,
a kill and an invalidation of its own. It is reported either way. -/
theorem check_violations_of_agreeOn_beside :
    let alone : Inputs :=
      { steps := .ofList [⟨0, 1⟩, ⟨1, 2⟩], inclusions := .ofList [⟨0, 1, 1⟩],
        borrows := .ofList [⟨0, 0, 0⟩], live := .ofList [⟨1, 2⟩], invalidations := .ofList [⟨2, 0⟩] }
    let beside : Inputs :=
      { alone with
        borrows := .ofList [⟨0, 0, 0⟩, ⟨0, 1, 0⟩, ⟨2, 1, 1⟩], kills := .ofList [⟨1, 1⟩],
        invalidations := .ofList [⟨1, 1⟩, ⟨2, 0⟩] }
    let clock : Clock := ⟨fun _ => 0, 0⟩
    Inputs.AgreeOn 0 alone beside ∧
      ∃ result result', (check alone {} clock).outcome = .ok result ∧
        (check beside {} clock).outcome = .ok result' ∧
        result.violations.filter (·.loan = 0) = result'.violations.filter (·.loan = 0) ∧
        ∃ v ∈ result.violations, v.point = 2 ∧ v.loan = 0 := by
  intro alone beside clock
  have hagree : Inputs.AgreeOn 0 alone beside := by
    refine ⟨rfl, rfl, rfl, ?_, ?_, ?_⟩ <;> simp [alone, beside]
  obtain ⟨result, result', hresult, hresult', heq⟩ := check_violations_of_agreeOn hagree clock clock
  refine ⟨hagree, result, result', hresult, hresult', heq, ?_⟩
  obtain ⟨_, hcheck⟩ := check_unlimited alone clock
  rw [hcheck] at hresult
  obtain rfl := Except.ok.inj hresult
  have hinv : ⟨2, 0⟩ ∈ alone.invalidations := by simp [alone]
  have hlive : ⟨1, 2⟩ ∈ alone.live := by simp [alone]
  have hborrow : ⟨0, 0, 0⟩ ∈ alone.borrows := by simp [alone]
  have hinc : ⟨0, 1, 1⟩ ∈ alone.inclusions := by simp [alone]
  have hstep : ⟨0, 1⟩ ∈ alone.steps ∧ ⟨0, 0⟩ ∉ alone.kills := by simp [alone]
  have hstep' : ⟨1, 2⟩ ∈ alone.steps ∧ ⟨0, 1⟩ ∉ alone.kills := by simp [alone]
  refine Checker.exists_violation_iff.2 ⟨hinv, 1, hlive, (mem_requirementClosure_iff alone _).2 ?_⟩
  exact ⟨0, 0, hborrow, .tail (.single hstep) hstep', .inr (.single ⟨1, hinc, .single hstep'.1⟩)⟩

end LoanCheck.Solver

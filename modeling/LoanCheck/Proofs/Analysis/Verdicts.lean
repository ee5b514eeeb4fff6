import LoanCheck.Analysis.Function
import LoanCheck.Proofs.Facts.Numbering
import LoanCheck.Proofs.Solver.Allowances

/-!
# Verdicts of checks

A check of facts has one of two reports : its result, if both saturations fit the budget (`checkFacts_of_fits`), and
an inconclusive status with no result otherwise (`checkFacts_of_not_fits`). So the status says whether the check fits
and whether a required loan is invalidated (`isOpen_status_checkFacts_iff`, `status_checkFacts_eq_violations_iff`).

`exitCode_analyzeAll_iff` puts this together for a list of facts and a budget without a time limit. Required loans are
said by derivations there (`Inputs.Requires`), and so are the passes that saturation makes (`Inputs.EndsWithin`).
-/

namespace LoanCheck

open Facts Solver

/-- A loan is invalidated at a point where a live region requires it. -/
def Solver.Inputs.Violated (i : Inputs) : Prop :=
  ∃ p l, ⟨p, l⟩ ∈ i.invalidations ∧ ∃ r n, ⟨r, p⟩ ∈ i.live ∧ i.Requires n r l p

theorem Solver.Inputs.violations_result_eq_nil_iff (i : Inputs) :
    i.result.violations = [] ↔ ¬i.Violated := by
  have hviolated : i.Violated ↔ ∃ p l, ∃ v ∈ (Checker.saturated i).violations,
      v.point = p ∧ v.loan = l := by
    refine exists₂_congr fun p l => ?_
    rw [Checker.exists_violation_iff]
    refine and_congr_right fun _ => exists_congr fun r => ?_
    rw [exists_and_left]
    exact and_congr_right fun _ => Inputs.mem_requirementClosure_iff_requires.symm
  rw [hviolated, List.eq_nil_iff_forall_not_mem]
  exact ⟨fun h ⟨_, _, v, hv, _⟩ => h v hv, fun h v hv => h ⟨_, _, v, hv, rfl, rfl⟩⟩

namespace Analysis

/-! ## Reports of checks -/

section Checks

variable (function : Option String) {graph : Option Flow.Graph} {facts : FactSet} {budget : Budget}
  {clock : Clock}

/-- The report of a check that fits its budget. -/
theorem checkFacts_of_fits (h : (facts.inputs graph).Fits budget clock) :
    (checkFacts function graph facts budget clock).report =
      { function, graph, result := some (facts.inputs graph).result, checked := true
        status := if (facts.inputs graph).result.violations.isEmpty then .ok else .violations
        diagnostics := (facts.inputs graph).result.violations.map
          (·.diagnostic { graph, facts := some facts, function }) } := by
  unfold checkFacts
  simp only [check_outcome_of_fits h]

/-- The report of a check that does not fit its budget. -/
theorem checkFacts_of_not_fits (h : ¬(facts.inputs graph).Fits budget clock) :
    ∃ e, (checkFacts function graph facts budget clock).report =
      { function, graph, status := .inconclusive, diagnostics := [overrun e function] } := by
  obtain ⟨e, he⟩ := check_outcome_of_not_fits h
  refine ⟨e, ?_⟩
  unfold checkFacts
  simp only [he]

theorem status_checkFacts_eq_violations_iff :
    (checkFacts function graph facts budget clock).report.status = .violations ↔
      (facts.inputs graph).Fits budget clock ∧ (facts.inputs graph).Violated := by
  by_cases h : (facts.inputs graph).Fits budget clock
  · rw [checkFacts_of_fits function h, ← not_not (a := Inputs.Violated _), ← Inputs.violations_result_eq_nil_iff]
    simp [h]
  · obtain ⟨e, he⟩ := checkFacts_of_not_fits function h
    rw [he]
    simp [h]

theorem isOpen_status_checkFacts_iff :
    (checkFacts function graph facts budget clock).report.status.isOpen = true ↔
      ¬(facts.inputs graph).Fits budget clock := by
  by_cases h : (facts.inputs graph).Fits budget clock
  · rw [checkFacts_of_fits function h]
    split <;> simp [Status.isOpen, h]
  · obtain ⟨e, he⟩ := checkFacts_of_not_fits function h
    rw [he]
    simp [Status.isOpen, h]

end Checks

/-! ## Exit codes -/

section ExitCodes

variable {reports : List Report}

theorem exitCode_number_eq_one_iff :
    (exitCode reports).number = 1 ↔ ∃ r ∈ reports, r.status = .violations := by
  unfold exitCode
  split_ifs <;> simp_all [ExitCode.number]

theorem exitCode_number_eq_three_iff : (exitCode reports).number = 3 ↔
    (¬∃ r ∈ reports, r.status = .violations) ∧ ∃ r ∈ reports, r.status.isOpen = true := by
  unfold exitCode
  split_ifs <;> simp_all [ExitCode.number]

theorem exitCode_number_eq_zero_iff : (exitCode reports).number = 0 ↔
    (¬∃ r ∈ reports, r.status = .violations) ∧ ¬∃ r ∈ reports, r.status.isOpen = true := by
  unfold exitCode
  split_ifs <;> simp_all [ExitCode.number]

end ExitCodes

/-- Some report of a list of tasks has a property exactly if some task has one that its reports show. -/
theorem exists_mem_analyzeAll_iff {α : Type} {analyze : α → Clock → Analysed} {P : Report → Prop}
    {Q : α → Prop} (h : ∀ t clock, P (analyze t clock).report ↔ Q t) (ts : List α) (clock : Clock) :
    (∃ r ∈ (analyzeAll analyze ts clock).1, P r) ↔ ∃ t ∈ ts, Q t := by
  induction ts generalizing clock with
  | nil => simp [analyzeAll]
  | cons t ts ih => simp [analyzeAll, h, ih]

/-- Checks of facts without a time limit end with exit code 1 if some facts are saturated within the limit of passes
and have a required loan invalidated ; with 3 if there are no such facts, but some that need more passes ; and with
0 if all facts are saturated within the limit and none has a required loan invalidated. -/
theorem exitCode_analyzeAll_iff (sets : List FactSet) {budget : Budget} (h : budget.timeout = none)
    (clock : Clock) :
    let code := (exitCode (analyzeAll (analyzeFacts · budget) sets clock).1).number
    let Ends (fs : FactSet) : Prop := ∀ n, budget.maxPasses = some n → fs.base.EndsWithin n
    (code = 1 ↔ ∃ fs ∈ sets, Ends fs ∧ fs.base.Violated) ∧
      (code = 3 ↔ (¬∃ fs ∈ sets, Ends fs ∧ fs.base.Violated) ∧ ∃ fs ∈ sets, ¬Ends fs) ∧
      (code = 0 ↔ ∀ fs ∈ sets, Ends fs ∧ ¬fs.base.Violated) := by
  intro code Ends
  have hfits : ∀ fs clock, (FactSet.inputs fs none).Fits budget clock ↔ Ends fs :=
    fun fs clock => fs.base.fits_iff_endsWithin h clock
  have hviolations : (∃ r ∈ (analyzeAll (analyzeFacts · budget) sets clock).1, r.status = .violations) ↔
      ∃ fs ∈ sets, Ends fs ∧ fs.base.Violated :=
    exists_mem_analyzeAll_iff (fun fs clock =>
      (status_checkFacts_eq_violations_iff _).trans (and_congr_left fun _ => hfits fs clock)) sets clock
  have hopen : (∃ r ∈ (analyzeAll (analyzeFacts · budget) sets clock).1, r.status.isOpen = true) ↔
      ∃ fs ∈ sets, ¬Ends fs :=
    exists_mem_analyzeAll_iff (fun fs clock =>
      (isOpen_status_checkFacts_iff _).trans (not_congr (hfits fs clock))) sets clock
  refine ⟨?_, ?_, ?_⟩
  · rw [exitCode_number_eq_one_iff, hviolations]
  · rw [exitCode_number_eq_three_iff, hviolations, hopen]
  · rw [exitCode_number_eq_zero_iff, hviolations, hopen]
    constructor
    · rintro ⟨hnone, hends⟩ fs hfs
      have hfs' : Ends fs := not_not.1 fun hnot => hends ⟨fs, hfs, hnot⟩
      exact ⟨hfs', fun hviolated => hnone ⟨fs, hfs, hfs', hviolated⟩⟩
    · intro hall
      exact ⟨fun ⟨fs, hfs, _, hviolated⟩ => (hall fs hfs).2 hviolated,
        fun ⟨fs, hfs, hnot⟩ => hnot (hall fs hfs).1⟩

/-- One inclusion needs four passes to be carried along three steps. With no more than two the facts stay open, and
other facts that are violated within two passes decide on the exit code. -/
theorem exitCode_analyzeAll_iff_two_passes :
    let budget : Budget := { maxPasses := some 2 }
    let clock : Clock := ⟨fun _ => 0, 0⟩
    let long := FactSet.ofRows none [.inclusion "'a" "'b" 0, .step 0 1, .step 1 2, .step 2 3]
    let bad := FactSet.ofRows none [.borrow "'a" "x" 0, .step 0 1, .liveness "'a" 1, .invalidation 1 "x"]
    budget.timeout = none ∧ ¬long.base.EndsWithin 2 ∧ bad.base.EndsWithin 2 ∧ bad.base.Violated ∧
      (exitCode (analyzeAll (analyzeFacts · budget) [long] clock).1).number = 3 ∧
      (exitCode (analyzeAll (analyzeFacts · budget) [long, bad] clock).1).number = 1 := by
  intro budget clock long bad
  have hlong : ¬long.base.EndsWithin 2 := by
    rw [Inputs.endsWithin_iff]
    decide +kernel
  have hbad : bad.base.EndsWithin 2 := by
    rw [Inputs.endsWithin_iff]
    decide +kernel
  have hborrow : bad.base.Requires 0 0 0 0 := .borrow (by decide +kernel)
  have hviolated : bad.base.Violated := ⟨1, 0, by decide +kernel, 0, 1, by decide +kernel,
    hborrow.carry (by decide +kernel) (by decide +kernel)⟩
  refine ⟨rfl, hlong, hbad, hviolated, ?_, ?_⟩
  · exact (exitCode_analyzeAll_iff [long] rfl clock).2.1.2
      ⟨by simp [budget, hlong], by simp [budget, hlong]⟩
  · exact (exitCode_analyzeAll_iff [long, bad] rfl clock).1.2 (by simp [budget, hbad, hviolated])

end Analysis

end LoanCheck

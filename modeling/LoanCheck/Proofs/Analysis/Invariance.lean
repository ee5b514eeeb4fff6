import LoanCheck.Proofs.Analysis.Verdicts
import LoanCheck.Proofs.Facts.Rearranging

/-!
# Verdicts do not depend on the order of relation forms

Facts with the same rows under their names come to the same verdict (`sameVerdict_of_respelled`) : they make as many
passes, so they fit the same budgets, and they have violations of the same loans at the same points, though listed in
another order and explained by other regions. A text with its relation forms rearranged therefore has the same
verdicts (`verdicts_of_rearranged`).
-/

namespace LoanCheck.Analysis

open Facts Solver Sexp

/-- The points and the names of the loans of all violations in a report about facts. -/
def Report.reported (r : Report) (fs : FactSet) : List (Point × String) :=
  (r.result.elim [] (·.violations)).map fun v => (v.point, fs.loanName v.loan)

/-- Two reports, each about its facts, that come to the same verdict. -/
structure SameVerdict (fs fs' : FactSet) (r r' : Report) : Prop where
  status : r'.status = r.status
  checked : r'.checked = r.checked
  passes : r'.result.map (·.passes) = r.result.map (·.passes)
  diagnostics : r'.diagnostics.length = r.diagnostics.length
  reported : (r'.reported fs').Perm (r.reported fs)

section Respelled

variable {fs fs' : FactSet} (h : fs.Respelled fs')
include h

/-- Violations are of the same loans at the same points. -/
theorem perm_violations_of_respelled :
    (fs'.base.result.violations.map fun v => (v.point, fs'.loanName v.loan)).Perm
      (fs.base.result.violations.map fun v => (v.point, fs.loanName v.loan)) := by
  have hperm := h.renamed.perm_keys.map fun k => (k.1, fs'.loanName k.2)
  simp only [List.map_map] at hperm
  refine hperm.trans (.of_eq (List.map_congr_left fun v hv => ?_))
  have hkey : v.key ∈ (Checker.saturated fs.base).violations.map Violation.key := List.mem_map_of_mem hv
  have hloan := (Inputs.mentions_of_mem_invalidations (Checker.mem_keys_violations.1 hkey).1).2
  exact congrArg (v.point, ·) (h.loanName_renumberLoan hloan)

theorem fits_iff_of_respelled {budget : Budget} (hbudget : budget.timeout = none) (clock clock' : Clock) :
    fs'.base.Fits budget clock' ↔ fs.base.Fits budget clock := by
  rw [Inputs.fits_iff_allows _ hbudget, Inputs.fits_iff_allows _ hbudget, h.renamed.passCounts_eq]

/-- Facts with the same rows under their names come to the same verdict, whatever the clocks say. -/
theorem sameVerdict_of_respelled {budget : Budget} (hbudget : budget.timeout = none)
    (clock clock' : Clock) : SameVerdict fs fs' (analyzeFacts fs budget clock).report
      (analyzeFacts fs' budget clock').report := by
  by_cases hfits : (fs.inputs none).Fits budget clock
  · have hfits' : (fs'.inputs none).Fits budget clock' :=
      (fits_iff_of_respelled h hbudget clock clock').2 hfits
    have hperm := perm_violations_of_respelled h
    have hlength : fs'.base.result.violations.length = fs.base.result.violations.length := by
      simpa using hperm.length_eq
    have hempty : fs'.base.result.violations.isEmpty = fs.base.result.violations.isEmpty := by
      rw [Bool.eq_iff_iff, List.isEmpty_iff_length_eq_zero, List.isEmpty_iff_length_eq_zero, hlength]
    rw [analyzeFacts, analyzeFacts, checkFacts_of_fits _ hfits, checkFacts_of_fits _ hfits']
    refine ⟨?_, rfl, congrArg some h.renamed.passCounts_eq, ?_, hperm⟩
    · show (if fs'.base.result.violations.isEmpty then Status.ok else .violations) = _
      rw [hempty]
      rfl
    · rw [List.length_map, List.length_map]
      exact hlength
  · have hfits' : ¬(fs'.inputs none).Fits budget clock' :=
      mt (fits_iff_of_respelled h hbudget clock clock').1 hfits
    obtain ⟨e, he⟩ := checkFacts_of_not_fits fs.function hfits
    obtain ⟨e', he'⟩ := checkFacts_of_not_fits fs'.function hfits'
    rw [analyzeFacts, analyzeFacts, he, he']
    exact ⟨rfl, rfl, rfl, rfl, .refl _⟩

end Respelled

/-- A text with its relation forms in another order, or with some of them repeated, is read as well. Each form comes to
the same verdict as before under every budget without a time limit. -/
theorem verdicts_of_rearranged {text text' source : String} {forms forms' : List Datum}
    {sets : List FactSet} (hread : readAll text = .ok forms) (hread' : readAll text' = .ok forms')
    (hforms : Rearranged forms forms') (hparse : parse text source = .ok sets) :
    ∃ sets', parse text' source = .ok sets' ∧ List.Forall₂ (fun fs fs' =>
      fs'.function = fs.function ∧ ∀ budget : Budget, budget.timeout = none → ∀ clock clock',
        SameVerdict fs fs' (analyzeFacts fs budget clock).report (analyzeFacts fs' budget clock').report)
      sets sets' := by
  obtain ⟨sets', hparse', hrespelled⟩ := exists_parse_of_rearranged hread hread' hforms hparse
  exact ⟨sets', hparse', hrespelled.imp fun fs fs' h =>
    ⟨h.function, fun budget hbudget => sameVerdict_of_respelled h hbudget⟩⟩

/-- Read from the last form on, with one of them repeated, the loans change their numbers. -/
theorem verdicts_of_rearranged_backwards :
    ∃ fs fs', parse "(borrow-region a x 0) (region-live-at a 0) (invalidates 0 x) (killed y 0)" "old" = .ok [fs] ∧
      parse "(killed y 0) (invalidates 0 x) (invalidates 0 x) (region-live-at a 0) (borrow-region a x 0)" "old" =
        .ok [fs'] ∧
      fs.loanNames = ["x", "y"] ∧ fs'.loanNames = ["y", "x"] ∧ ∀ clock clock',
        SameVerdict fs fs' (analyzeFacts fs { maxPasses := some 1 } clock).report
          (analyzeFacts fs' { maxPasses := some 1 } clock').report := by
  have hread : readAll "(borrow-region a x 0) (region-live-at a 0) (invalidates 0 x) (killed y 0)" =
      .ok [.list [.symbol "borrow-region", .symbol "a", .symbol "x", .int 0],
        .list [.symbol "region-live-at", .symbol "a", .int 0],
        .list [.symbol "invalidates", .int 0, .symbol "x"], .list [.symbol "killed", .symbol "y", .int 0]] := by
    rfl
  have hread' : readAll
      "(killed y 0) (invalidates 0 x) (invalidates 0 x) (region-live-at a 0) (borrow-region a x 0)" =
      .ok [.list [.symbol "killed", .symbol "y", .int 0], .list [.symbol "invalidates", .int 0, .symbol "x"],
        .list [.symbol "invalidates", .int 0, .symbol "x"],
        .list [.symbol "region-live-at", .symbol "a", .int 0],
        .list [.symbol "borrow-region", .symbol "a", .symbol "x", .int 0]] := by
    rfl
  have hparse : parse "(borrow-region a x 0) (region-live-at a 0) (invalidates 0 x) (killed y 0)" "old" =
      .ok [FactSet.ofRows none [.borrow "a" "x" 0, .liveness "a" 0, .invalidation 0 "x", .kill "y" 0]] :=
    eq_ok_of_toOption (by decide +kernel)
  have hparse' : parse
      "(killed y 0) (invalidates 0 x) (invalidates 0 x) (region-live-at a 0) (borrow-region a x 0)" "old" =
      .ok [FactSet.ofRows none [.kill "y" 0, .invalidation 0 "x", .liveness "a" 0, .borrow "a" "x" 0]] :=
    eq_ok_of_toOption (by decide +kernel)
  have hverdicts := fun hforms => verdicts_of_rearranged hread hread' hforms hparse
  obtain ⟨sets', hsets', hverdicts⟩ := hverdicts <| .bare (fun form hform => by
    simp only [List.mem_cons, List.not_mem_nil, or_false] at hform
    rcases hform with rfl | rfl | rfl | rfl <;> decide +kernel) (by grind)
  rw [hparse'] at hsets'
  cases hsets'
  obtain ⟨⟨-, hverdict⟩, -⟩ := List.forall₂_cons.1 hverdicts
  exact ⟨_, _, hparse, hparse', by decide +kernel, by decide +kernel, hverdict _ rfl⟩

end LoanCheck.Analysis

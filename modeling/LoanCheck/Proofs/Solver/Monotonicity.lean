import LoanCheck.Proofs.Solver.Verdict

/-!
# More facts, more violations

`Inputs.Below i j` says that `j` knows all that `i` knows, kills apart, and kills no loan where `i` does not. A
kill only ever stops a path, so every path of `i` is a path of `j` : control leads on (`Leads.of_below`), loans
are carried (`Carries.of_below`) and regions flow (`FlowsAt.of_below`) at least as far. What is derived from `i`
is then derived from `j` (`Below.mem_requirementClosure`), and `check_reports_of_below` says the same of what is
reported. The two checks may take different numbers of passes, which the paths do not see.
-/

namespace LoanCheck.Solver

namespace Inputs

/-- The second inputs have every fact of the first that is no kill, and no kill that the first lack. -/
structure Below (i j : Inputs) : Prop where
  steps : ∀ f ∈ i.steps, f ∈ j.steps
  inclusions : ∀ f ∈ i.inclusions, f ∈ j.inclusions
  borrows : ∀ f ∈ i.borrows, f ∈ j.borrows
  live : ∀ f ∈ i.live, f ∈ j.live
  kills : ∀ f ∈ j.kills, f ∈ i.kills
  invalidations : ∀ f ∈ i.invalidations, f ∈ j.invalidations

variable {i j : Inputs} {l : Loan} {r r' : Region} {p q : Point}

theorem Leads.of_below (h : i.Below j) (hpq : i.Leads p q) : j.Leads p q :=
  Relation.ReflTransGen.mono (fun _ _ hs => h.steps _ hs) _ _ hpq

/-- A path that leaves no point where the first inputs kill the loan leaves none where the second do. -/
theorem Carries.of_below (h : i.Below j) (hpq : i.Carries l p q) : j.Carries l p q := by
  refine Relation.ReflTransGen.mono ?_ _ _ hpq
  rintro _ _ ⟨hs, hk⟩
  exact ⟨h.steps _ hs, mt (h.kills _) hk⟩

theorem FlowsAt.of_below (h : i.Below j) (hr : i.FlowsAt p r r') : j.FlowsAt p r r' := by
  refine Relation.TransGen.mono ?_ _ _ hr
  rintro _ _ ⟨y, hy, hp⟩
  exact ⟨y, h.inclusions _ hy, hp.of_below h⟩

theorem RequiredAt.of_below (h : i.Below j) (hr : i.RequiredAt r l p) : j.RequiredAt r l p := by
  obtain ⟨r₀, p₀, h₀, hcarry, hflow⟩ := hr
  exact ⟨r₀, p₀, h.borrows _ h₀, hcarry.of_below h, hflow.imp id (FlowsAt.of_below h)⟩

/-- Saturation derives no fewer requirements from more facts and fewer kills. -/
theorem Below.mem_requirementClosure (h : i.Below j) {f : Requirement}
    (hf : f ∈ i.requirementClosure) : f ∈ j.requirementClosure := by
  rw [mem_requirementClosure_iff] at hf ⊢
  exact hf.of_below h

end Inputs

/-- Facts that are no kills hide no violation, and neither does the absence of a kill. Let the second inputs
have every fact of the first that is no kill, and no kill that the first lack. Checks without limits end on
both, and a loan that the first reports at a point the second reports there too. -/
theorem check_reports_of_below {i j : Inputs} (h : i.Below j) (clock clock' : Clock) :
    ∃ result result', (check i {} clock).outcome = .ok result ∧
      (check j {} clock').outcome = .ok result' ∧
      ∀ p l, (∃ v ∈ result.violations, v.point = p ∧ v.loan = l) →
        ∃ v ∈ result'.violations, v.point = p ∧ v.loan = l := by
  obtain ⟨_, hi⟩ := check_unlimited i clock
  obtain ⟨_, hj⟩ := check_unlimited j clock'
  refine ⟨_, _, hi, hj, fun p l hv => ?_⟩
  obtain ⟨hinv, r, hlive, hreq⟩ := Checker.exists_violation_iff.1 hv
  exact Checker.exists_violation_iff.2
    ⟨h.invalidations _ hinv, r, h.live _ hlive, h.mem_requirementClosure hreq⟩

/-- A loan that is killed on one way to its invalidation and not on the other, and the same with a third way,
another region that it flows into, and without the kill. It is reported in both. -/
theorem check_reports_of_below_detour :
    let killed : Inputs :=
      { steps := .ofList [⟨0, 1⟩, ⟨0, 2⟩, ⟨1, 3⟩, ⟨2, 3⟩], borrows := .ofList [⟨0, 0, 0⟩],
        live := .ofList [⟨0, 3⟩], kills := .ofList [⟨0, 1⟩], invalidations := .ofList [⟨3, 0⟩] }
    let spared : Inputs :=
      { killed with
        steps := .ofList [⟨0, 1⟩, ⟨0, 2⟩, ⟨0, 3⟩, ⟨1, 3⟩, ⟨2, 3⟩, ⟨3, 0⟩],
        inclusions := .ofList [⟨0, 1, 2⟩], live := .ofList [⟨0, 3⟩, ⟨1, 3⟩], kills := ∅ }
    let clock : Clock := ⟨fun _ => 0, 0⟩
    killed.Below spared ∧
      ∃ result result', (check killed {} clock).outcome = .ok result ∧
        (check spared {} clock).outcome = .ok result' ∧
        (∃ v ∈ result.violations, v.point = 3 ∧ v.loan = 0) ∧
        ∃ v ∈ result'.violations, v.point = 3 ∧ v.loan = 0 := by
  intro killed spared clock
  have hbelow : killed.Below spared := by
    constructor <;> simp +contextual [killed, spared]
  obtain ⟨result, result', hresult, hresult', hreports⟩ := check_reports_of_below hbelow clock clock
  refine ⟨hbelow, result, result', hresult, hresult', ?_⟩
  have hreported : ∃ v ∈ result.violations, v.point = 3 ∧ v.loan = 0 := by
    obtain ⟨_, hcheck⟩ := check_unlimited killed clock
    rw [hcheck] at hresult
    obtain rfl := Except.ok.inj hresult
    have hinv : ⟨3, 0⟩ ∈ killed.invalidations := by simp [killed]
    have hlive : ⟨0, 3⟩ ∈ killed.live := by simp [killed]
    have hborrow : ⟨0, 0, 0⟩ ∈ killed.borrows := by simp [killed]
    have hstep : ⟨0, 2⟩ ∈ killed.steps ∧ ⟨0, 0⟩ ∉ killed.kills := by simp [killed]
    have hstep' : ⟨2, 3⟩ ∈ killed.steps ∧ ⟨0, 2⟩ ∉ killed.kills := by simp [killed]
    refine Checker.exists_violation_iff.2 ⟨hinv, 0, hlive, (mem_requirementClosure_iff killed _).2 ?_⟩
    exact ⟨0, 0, hborrow, .tail (.single hstep) hstep', .inl rfl⟩
  exact ⟨hreported, hreports 3 0 hreported⟩

end LoanCheck.Solver

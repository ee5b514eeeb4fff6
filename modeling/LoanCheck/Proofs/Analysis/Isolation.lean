import LoanCheck.Proofs.Analysis.Ownership
import LoanCheck.Proofs.Solver.Limits
import Mathlib.Data.List.Forall2

/-!
# Functions do not interfere

Without a time limit the clock has no say in a check (`check_congr_clock`), so the report about a function is the same
whenever its turn comes (`report_analyzeFunction_congr_clock`). And a function whose name no other one has takes
the facts that name it, whatever was taken before (`pairUp_of_nodup`).

So in a source file whose functions have bodies and different names, every function is reported on by itself. Other
functions and the facts about them make no difference (`analyzeFile_isolated`).
-/

namespace LoanCheck

open Facts Solver Syntax

/-! ## Time -/

namespace Solver

variable {b : Budget}

theorem Budget.gate_of_timeout_eq_none (h : b.timeout = none) (clock : Clock) : b.gate clock = b.passStop := by
  funext made
  simp only [gate, timeStop, h, Option.or_none]

/-- Without a time limit, saturation can make only one thing of a checker. -/
theorem Checker.Saturates.unique {c c₁ c₂ : Checker} {o₁ o₂ : Except Exhausted PassCounts}
    (h : c.budget.timeout = none) (h₁ : c.Saturates c₁ o₁) (h₂ : c.Saturates c₂ o₂) : c₁ = c₂ ∧ o₁ = o₂ := by
  have hgate := Budget.gate_of_timeout_eq_none h
  -- the courses are those of the pass limit, so two saturations cannot end in different ways
  cases h₁ <;> cases h₂ <;>
    simp_all [inclusionCourse, included, requirementCourse, recorded, concluded]

/-- Without a time limit the clock has no say in a check. -/
theorem check_congr_clock (i : Inputs) (h : b.timeout = none) (clock clock' : Clock) :
    (check i b clock).outcome = (check i b clock').outcome := by
  obtain ⟨outcome, hsaturates, houtcome⟩ := (Checker.start i b).saturates_run clock
  obtain ⟨outcome', hsaturates', houtcome'⟩ := (Checker.start i b).saturates_run clock'
  obtain ⟨hchecker, rfl⟩ := hsaturates.unique h hsaturates'
  rw [check, check, houtcome, houtcome', hchecker]

end Solver

namespace Analysis

variable {budget : Budget}

theorem report_checkFacts_congr_clock (function : Option String) (graph : Option Flow.Graph) (facts : FactSet)
    (h : budget.timeout = none) (clock clock' : Clock) :
    (checkFacts function graph facts budget clock).report = (checkFacts function graph facts budget clock').report := by
  have hcheck := check_congr_clock (facts.inputs graph) h clock clock'
  cases houtcome : (check (facts.inputs graph) budget clock').outcome with
  | error e => simp only [checkFacts, hcheck, houtcome]
  | ok result => simp only [checkFacts, hcheck, houtcome]

theorem report_analyzeFunction_congr_clock (t : FunctionTask) (h : budget.timeout = none) (clock clock' : Clock) :
    (analyzeFunction t budget clock).report = (analyzeFunction t budget clock').report := by
  cases hdrawn : (Flow.Graph.ofStatements t.statements t.name).outcome with
  | error e => simp only [analyzeFunction, hdrawn]
  | ok graph =>
    cases hfacts : t.facts with
    | none => simp only [analyzeFunction, hdrawn, hfacts]
    | some facts =>
      cases hvalid : facts.validate graph with
      | error e => simp only [analyzeFunction, hdrawn, hfacts, hvalid]
      | ok _ =>
        simp only [analyzeFunction, hdrawn, hfacts, hvalid]
        exact report_checkFacts_congr_clock t.name (some graph) facts h clock clock'

theorem report_analyzeCursor_congr_clock (p : Pairing) (ss : List Statement) (h : budget.timeout = none)
    (clock clock' : Clock) :
    (analyzeCursor p ss budget clock).report = (analyzeCursor p ss budget clock').report := by
  simp only [analyzeCursor, report_analyzeFunction_congr_clock _ h clock clock']

/-! ## Turns -/

/-- Functions with bodies are all reported on, each as if it were alone. -/
theorem exists_reports_analyzePairings (h : budget.timeout = none) {pairings : List Pairing}
    (hbodies : ∀ p ∈ pairings, ∃ ss, p.function.statements = .ok ss) (clock : Clock) :
    ∃ notes clock' reports, analyzePairings budget pairings clock = ⟨notes, clock', .ok reports⟩ ∧
      List.Forall₂ (fun p r => ∃ ss, p.function.statements = .ok ss ∧
        ∀ clock, r = (analyzeCursor p ss budget clock).report) pairings reports := by
  induction pairings generalizing clock with
  | nil => exact ⟨_, _, _, rfl, .nil⟩
  | cons p pairings ih =>
    obtain ⟨hbody, hbodies⟩ := List.forall_mem_cons.1 hbodies
    obtain ⟨ss, hss⟩ := hbody
    obtain ⟨notes, clock', reports, hrest, hreports⟩ := ih hbodies (analyzeCursor p ss budget clock).clock
    have hrun : analyzePairings budget (p :: pairings) clock =
        ⟨annotationNotes p.function ++ (analyzeCursor p ss budget clock).journal ++ notes, clock',
          .ok ((analyzeCursor p ss budget clock).report :: reports)⟩ := by
      simp only [analyzePairings, hss, hrest]
      rfl
    exact ⟨_, clock', _, hrun,
      .cons ⟨ss, hss, report_analyzeCursor_congr_clock p ss h clock⟩ hreports⟩

theorem NamedFacts.lookup_drop {named : NamedFacts} {name name' : String} (h : name ≠ name') :
    (named.drop name).lookup name' = named.lookup name' := by
  induction named with
  | nil => rfl
  | cons e named ih =>
    obtain ⟨key, facts⟩ := e
    by_cases hkey : key = name
    · subst hkey
      rw [drop_cons_self, ih, lookup_cons_of_ne h]
    · rw [drop_cons_of_ne hkey, List.lookup_cons, List.lookup_cons, ih]

/-- Functions with different names all take the facts of their names. -/
theorem pairUp_of_nodup {functions : List Cursor} (named : NamedFacts)
    (h : (functions.map (·.spelling)).Nodup) :
    (pairUp functions named).1 = functions.map fun f => ⟨f, named.lookup f.spelling⟩ := by
  induction functions generalizing named with
  | nil => rfl
  | cons f functions ih =>
    obtain ⟨hnew, h⟩ := List.nodup_cons.1 h
    rw [pairUp_cons, ih _ h, List.map_cons]
    refine congrArg (_ :: ·) (List.map_congr_left fun g hg => ?_)
    have hne : f.spelling ≠ g.spelling := fun heq => hnew (List.mem_map.2 ⟨g, hg, heq.symm⟩)
    rw [NamedFacts.lookup_drop hne]

theorem lookup_namedForms (sets : List FactSet) (name : String) :
    (namedForms sets).lookup name = sets.find? (·.function = some name) := by
  induction sets with
  | nil => rfl
  | cons fs sets ih =>
    cases hfunction : fs.function with
    | none =>
      have hforms : namedForms (fs :: sets) = namedForms sets := by
        simp [namedForms, hfunction]
      rw [hforms, ih, List.find?_cons_of_neg (by simp [hfunction])]
    | some key =>
      have hforms : namedForms (fs :: sets) = (key, fs) :: namedForms sets := by
        simp [namedForms, hfunction]
      rw [hforms]
      by_cases hkey : key = name
      · subst hkey
        rw [List.lookup_cons_self, List.find?_cons_of_pos (by simp [hfunction])]
      · rw [NamedFacts.lookup_cons_of_ne hkey, ih, List.find?_cons_of_neg (by simpa [hfunction] using hkey)]

/-! ## Functions by themselves -/

theorem exists_getElem?_of_forall₂ {α β : Type} {R : α → β → Prop} {as : List α} {bs : List β} {k : ℕ} {a : α}
    (h : List.Forall₂ R as bs) (ha : as[k]? = some a) : ∃ b, bs[k]? = some b ∧ R a b := by
  obtain ⟨hlength, hget⟩ := List.forall₂_iff_get.1 h
  obtain ⟨hk, rfl⟩ := List.getElem?_eq_some_iff.1 ha
  exact ⟨bs[k], List.getElem?_eq_getElem (hlength ▸ hk), hget k hk (hlength ▸ hk)⟩

/-- Functions with bodies and different names, and forms with different names. -/
structure Separate (functions : List Cursor) (sets : List FactSet) : Prop where
  bodies : ∀ f ∈ functions, ∃ ss, f.statements = .ok ss
  spellings : (functions.map (·.spelling)).Nodup
  named : ∀ fs ∈ sets, fs.function ≠ none
  forms : (sets.map (·.function)).Nodup

/-- The report that a function gets from its own statements and the facts that name it, at any time. The warnings about
its parameters stand in front. -/
def IsOwnReport (budget : Budget) (sets : List FactSet) (f : Cursor) (r : Report) : Prop :=
  ∃ ss, f.statements = .ok ss ∧ ∀ clock,
    let a := analyzeFunction
      { name := some f.spelling
        statements := ss
        facts := sets.find? (·.function = some f.spelling)
        location := f.location } budget clock
    r = { a.report with diagnostics := f.selfWarnings ++ a.report.diagnostics }

theorem IsOwnReport.unique {sets sets' : List FactSet} {f : Cursor} {r r' : Report}
    (h : IsOwnReport budget sets f r) (h' : IsOwnReport budget sets' f r')
    (hfacts : sets.find? (·.function = some f.spelling) = sets'.find? (·.function = some f.spelling)) : r = r' := by
  obtain ⟨ss, hss, hr⟩ := h
  obtain ⟨ss', hss', hr'⟩ := h'
  cases hss.symm.trans hss'
  rw [hr ⟨fun _ => 0, 0⟩, hr' ⟨fun _ => 0, 0⟩, hfacts]

theorem exists_reports_analyzeUnit {u : SourceUnit} (path : String) {sets : List FactSet}
    (h : Separate u.functions sets) (hbudget : budget.timeout = none) (clock : Clock) :
    ∃ journal clock' reports, analyzeUnit u path sets none budget clock = ⟨journal, clock', .ok reports⟩ ∧
      List.Forall₂ (IsOwnReport budget sets) u.functions reports := by
  have hassign : assignFacts u.functions sets = .ok (namedForms sets) :=
    assignFacts_eq_ok_iff.2 ⟨h.forms, .inl ⟨h.named, rfl⟩⟩
  have hpairings : (pairUp u.functions (namedForms sets)).1 =
      u.functions.map fun f => ⟨f, sets.find? (·.function = some f.spelling)⟩ := by
    simp only [pairUp_of_nodup _ h.spellings, lookup_namedForms]
  have hbodies : ∀ p ∈ (pairUp u.functions (namedForms sets)).1, ∃ ss, p.function.statements = .ok ss := by
    rw [hpairings]
    exact List.forall_mem_map.2 h.bodies
  obtain ⟨notes, clock', reports, hrun, hreports⟩ := exists_reports_analyzePairings hbudget hbodies clock
  rw [hpairings, List.forall₂_map_left_iff] at hreports
  exact ⟨_, clock', reports,
    analyzeUnit_eq_ok_iff.2 ⟨u.functions, namedForms sets, rfl, hassign, notes, hrun, rfl⟩, hreports⟩

end Analysis

namespace Work

open Analysis

variable {path : String} {config : Config} {sets : List FactSet} {s s₁ : Session} {u : SourceUnit}

theorem exists_reports_analyzeFile (hparse : parseSource path config.clangArgs s = .ok u s₁)
    (hseparate : Separate u.functions sets) (htimeout : config.timeout = none) :
    ∃ reports s₂, analyzeFile path config sets none s = .ok reports s₂ ∧
      List.Forall₂ (IsOwnReport config.budget sets) u.functions reports := by
  have hbudget : config.budget.timeout = none := htimeout
  obtain ⟨journal, clock, reports, hrun, hreports⟩ := exists_reports_analyzeUnit path hseparate hbudget s₁.clock
  exact ⟨reports, _, analyzeFile_eq_ok_iff.2 ⟨u, s₁, hparse, journal, clock, hrun, rfl⟩, hreports⟩

/-- Functions with bodies and different names are reported on one by one, each by itself : what the other functions
and the facts about them are makes no difference. -/
theorem analyzeFile_isolated (hparse : parseSource path config.clangArgs s = .ok u s₁)
    (hseparate : Separate u.functions sets) (htimeout : config.timeout = none) :
    ∃ reports s₂, analyzeFile path config sets none s = .ok reports s₂ ∧
      List.Forall₂ (IsOwnReport config.budget sets) u.functions reports ∧
      ∀ path' sets' s' s₁' u', parseSource path' config.clangArgs s' = .ok u' s₁' → Separate u'.functions sets' →
        ∃ reports' s₂', analyzeFile path' config sets' none s' = .ok reports' s₂' ∧
          ∀ (k k' : ℕ) (f : Cursor), u.functions[k]? = some f → u'.functions[k']? = some f →
            sets.find? (·.function = some f.spelling) = sets'.find? (·.function = some f.spelling) →
            reports[k]? = reports'[k']? := by
  obtain ⟨reports, s₂, hrun, hreports⟩ := exists_reports_analyzeFile hparse hseparate htimeout
  refine ⟨reports, s₂, hrun, hreports, fun path' sets' s' s₁' u' hparse' hseparate' => ?_⟩
  obtain ⟨reports', s₂', hrun', hreports'⟩ := exists_reports_analyzeFile hparse' hseparate' htimeout
  refine ⟨reports', s₂', hrun', fun k k' f hf hf' hfacts => ?_⟩
  obtain ⟨r, hr, hown⟩ := exists_getElem?_of_forall₂ hreports hf
  obtain ⟨r', hr', hown'⟩ := exists_getElem?_of_forall₂ hreports' hf'
  rw [hr, hr', hown.unique hown' hfacts]

/-- A function is reported on as before if another one gets facts and a body that cannot be drawn, and comes first. -/
theorem analyzeFile_isolated_beside_goto :
    ∃ reports s₂ reports' s₂',
      analyzeFile "a.c" {} [brokenLoan] none (sessionOver [bareFunction "f" [], bareFunction "g" []]) =
        .ok reports s₂ ∧
      analyzeFile "a.c" {} [{ function := some "g" }, brokenLoan] none
        (sessionOver [bareFunction "g" [bareStatement .goto []], bareFunction "f" []]) = .ok reports' s₂' ∧
      reports[0]? = reports'[1]? := by
  obtain ⟨s₁, hparse⟩ := exists_parseSource_sessionOver [bareFunction "f" [], bareFunction "g" []]
  obtain ⟨s₁', hparse'⟩ :=
    exists_parseSource_sessionOver [bareFunction "g" [bareStatement .goto []], bareFunction "f" []]
  have hseparate : Separate [bareFunction "f" [], bareFunction "g" []] [brokenLoan] := by
    refine ⟨?_, by decide, by decide, by decide⟩
    simp only [List.forall_mem_cons]
    exact ⟨⟨_, rfl⟩, ⟨_, rfl⟩, nofun⟩
  have hseparate' : Separate [bareFunction "g" [bareStatement .goto []], bareFunction "f" []]
      [{ function := some "g" }, brokenLoan] := by
    refine ⟨?_, by decide, by decide, by decide⟩
    simp only [List.forall_mem_cons]
    exact ⟨⟨_, rfl⟩, ⟨_, rfl⟩, nofun⟩
  obtain ⟨reports, s₂, hrun, -, hother⟩ := analyzeFile_isolated hparse hseparate rfl
  obtain ⟨reports', s₂', hrun', hsame⟩ := hother _ _ _ _ _ hparse' hseparate'
  exact ⟨reports, s₂, reports', s₂', hrun, hrun', hsame 0 1 _ rfl rfl (by decide)⟩

end Work

end LoanCheck

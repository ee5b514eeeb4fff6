import LoanCheck.Proofs.Solver.Verdict

/-!
# Saturation under a budget

A gate only decides how far a course goes, never what its rounds are. The rounds of a course are the first
ones of any course from the same stage that was not stopped (`Stage.Covers.isPrefix_rounds`), and courses that
were not stopped are the same (`Stage.Covers.eq_of_stop_eq_none`). A limit of passes stops a course exactly if
saturation makes more of them (`Stage.Covers.stopped_iff_lt_passes`), and then after as many passes as the
limit allows (`Stage.Covers.length_of_passLimit`).

`Checker.Saturates` lists all that saturation can make of a checker: it is stopped at the inclusions, stopped at
the requirements, or settled. `check_limited` compares a check under any budget with the one without limits.
-/

namespace LoanCheck.Solver

/-! ## Courses from one stage -/

namespace Deduction.Stage.Covers

variable {α σ ε ε' : Type} [Ord α] [Std.TransOrd α] [Std.LawfulEqOrd α] [DecidableEq α]
  {d : Deduction α σ} {s : d.Stage} {gate : ℕ → Option ε} {gate' : ℕ → Option ε'} {made made' : ℕ}
  {c : Course α ε} {full : Course α ε'}

theorem rounds_eq_map_range (hc : s.Covers gate made c) :
    c.rounds = (List.range c.rounds.length).map s.round := by
  refine List.ext_getElem (by simp) fun i hi _ => ?_
  rw [List.getElem_map, List.getElem_range]
  exact hc.round i _ (List.getElem?_eq_getElem hi)

/-- No course goes beyond one that was not stopped. -/
theorem length_le (hc : s.Covers gate made c) (hfull : s.Covers gate' made' full)
    (hstop : full.stop = none) : c.rounds.length ≤ full.rounds.length := by
  by_contra hlt
  exact hc.found full.rounds.length (by omega) (hfull.settled hstop).2

/-- The rounds of a course are the first ones of a course that was not stopped. -/
theorem isPrefix_rounds (hc : s.Covers gate made c) (hfull : s.Covers gate' made' full)
    (hstop : full.stop = none) : c.rounds <+: full.rounds := by
  rw [hc.rounds_eq_map_range, hfull.rounds_eq_map_range]
  refine List.IsPrefix.map _ ?_
  rw [← Nat.min_eq_left (hc.length_le hfull hstop), ← List.take_range]
  exact List.take_prefix _ _

/-- Courses that were not stopped have the same rounds. -/
theorem rounds_eq (hc : s.Covers gate made c) (hfull : s.Covers gate' made' full)
    (hcstop : c.stop = none) (hstop : full.stop = none) : c.rounds = full.rounds :=
  (hc.isPrefix_rounds hfull hstop).eq_of_length
    (Nat.le_antisymm (hc.length_le hfull hstop) (hfull.length_le hc hcstop))

/-- Courses that were not stopped are the same. -/
theorem eq_of_stop_eq_none {full : Course α ε} {gate' : ℕ → Option ε} (hc : s.Covers gate made c)
    (hfull : s.Covers gate' made full) (hcstop : c.stop = none) (hstop : full.stop = none) :
    c = full := by
  have hrounds := hc.rounds_eq hfull hcstop hstop
  have hpasses : c.passes = full.passes := by
    rw [hc.passes_of_stop_eq_none hcstop, hfull.passes_of_stop_eq_none hstop, hrounds]
  cases c
  cases full
  simp_all

end Deduction.Stage.Covers

/-! ## Limits of passes -/

/-- A limit of passes alone lets a pass through while fewer than `n` were made, whatever the clock says. -/
theorem Budget.gate_maxPasses (n : Int) (clock : Clock) (made : ℕ) :
    ({ maxPasses := some n } : Budget).gate clock made =
      if n ≤ made then some (.passLimit n) else none := by
  simp [gate, passStop, timeStop]

namespace Deduction.Stage.Covers

variable {α σ ε : Type} [Ord α] [Std.TransOrd α] [Std.LawfulEqOrd α] [DecidableEq α]
  {d : Deduction α σ} {s : d.Stage} {n : Int} {clock : Clock} {gate : ℕ → Option ε}
  {c : Course α Stop} {full : Course α ε}

/-- A course that a limit of passes stopped has made as many passes as the limit allows. -/
theorem length_of_passLimit (hc : s.Covers (({ maxPasses := some n } : Budget).gate clock) 0 c)
    {stop : Stop} (hstop : c.stop = some stop) : (c.rounds.length : ℤ) = max n 0 := by
  have hlimit : n ≤ c.rounds.length := by
    have := hc.stopped stop hstop
    rw [Budget.gate_maxPasses, Nat.zero_add] at this
    by_contra hlt
    simp [hlt] at this
  have hpassed : ∀ i < c.rounds.length, (i : ℤ) < n := by
    intro i hi
    have := hc.passed i hi
    rw [Budget.gate_maxPasses, Nat.zero_add] at this
    by_contra hge
    simp [not_lt.1 hge] at this
  rcases Nat.eq_zero_or_pos c.rounds.length with h0 | hpos
  · omega
  · have := hpassed (c.rounds.length - 1) (by omega)
    omega

theorem passes_of_passLimit (hc : s.Covers (({ maxPasses := some n } : Budget).gate clock) 0 c)
    {stop : Stop} (hstop : c.stop = some stop) : (c.passes : ℤ) = max n 0 := by
  rw [hc.passes_of_stop hstop, Nat.zero_add]
  exact hc.length_of_passLimit hstop

/-- A limit of passes stops a course exactly if saturation makes more of them. -/
theorem stopped_iff_lt_passes (hc : s.Covers (({ maxPasses := some n } : Budget).gate clock) 0 c)
    (hfull : s.Covers gate 0 full) (hstop : full.stop = none) :
    c.stop ≠ none ↔ n < full.passes := by
  rw [hfull.passes_of_stop_eq_none hstop, Nat.zero_add]
  constructor
  · intro hc'
    obtain ⟨stop, hcstop⟩ := Option.ne_none_iff_exists'.1 hc'
    have hlength := hc.length_of_passLimit hcstop
    have hle := hc.length_le hfull hstop
    omega
  · intro hlt hcstop
    -- the pass that finds nothing more is one too many
    have hgate := (hc.settled hcstop).1
    have hlength := hfull.length_le hc hcstop
    rw [Budget.gate_maxPasses, Nat.zero_add, if_pos (by omega)] at hgate
    cases hgate

end Deduction.Stage.Covers

/-! ## What saturation makes of a checker -/

namespace Checker

/-- The course of the checker's inclusions under its budget, the clock being read from a time on. -/
def inclusionCourse (c : Checker) (clock : Clock) : Course Inclusion Stop :=
  Solver.inclusionCourse c.inputs.steps c.inclusions (c.budget.gate clock)

/-- The course of the checker's requirements under its budget. -/
def requirementCourse (c : Checker) (clock : Clock) : Course Requirement Stop :=
  Solver.requirementCourse c.inclusions c.inputs.steps c.inputs.kills c.requirements
    (c.budget.gate clock)

/-- The checker with the inclusions that their course ends with. -/
def included (c : Checker) (clock : Clock) : Checker :=
  { c with inclusions := (c.inclusionCourse clock).last c.inclusions }

/-- The checker with the premises that the course of its requirements came upon. -/
def recorded (c : Checker) (clock : Clock) : Checker :=
  { c with provenance := c.provenance.recordRounds (c.requirementCourse clock).rounds }

/-- The checker with the requirements that their course ends with, and their premises. -/
def concluded (c : Checker) (clock : Clock) : Checker :=
  { c.recorded clock with requirements := (c.requirementCourse clock).last c.requirements }

/-- All that saturation can make of a checker, with the outcome. -/
inductive Saturates (c : Checker) : Checker → Except Exhausted PassCounts → Prop where
  | stoppedAtInclusions {clock : Clock} {stop : Stop} :
      (c.inclusionCourse clock).stop = some stop →
      Saturates c c (.error ⟨.inclusions, (c.inclusionCourse clock).passes, stop⟩)
  | stoppedAtRequirements {clock clock' : Clock} {stop : Stop} :
      (c.inclusionCourse clock).stop = none →
      ((c.included clock).requirementCourse clock').stop = some stop →
      Saturates c ((c.included clock).recorded clock')
        (.error ⟨.requirements, ((c.included clock).requirementCourse clock').passes, stop⟩)
  | settled {clock clock' : Clock} :
      (c.inclusionCourse clock).stop = none →
      ((c.included clock).requirementCourse clock').stop = none →
      Saturates c ((c.included clock).concluded clock')
        (.ok ⟨(c.inclusionCourse clock).passes, ((c.included clock).requirementCourse clock').passes⟩)

theorem saturateRequirements_of_stop {c : Checker} {clock : Clock} {stop : Stop}
    (h : (c.requirementCourse (clock.advance 1)).stop = some stop) :
    (c.saturateRequirements clock).checker = c.recorded (clock.advance 1) ∧
      (c.saturateRequirements clock).outcome =
        .error ⟨.requirements, (c.requirementCourse (clock.advance 1)).passes, stop⟩ := by
  have hstop : (metered c.budget clock (Solver.requirementCourse c.inclusions c.inputs.steps
    c.inputs.kills c.requirements)).course.stop = some stop := h
  simp only [saturateRequirements, Metered.result, hstop]
  exact ⟨rfl, rfl⟩

theorem saturateRequirements_of_stop_eq_none {c : Checker} {clock : Clock}
    (h : (c.requirementCourse (clock.advance 1)).stop = none) :
    (c.saturateRequirements clock).checker = c.concluded (clock.advance 1) ∧
      (c.saturateRequirements clock).outcome =
        .ok (c.requirementCourse (clock.advance 1)).passes := by
  have hstop : (metered c.budget clock (Solver.requirementCourse c.inclusions c.inputs.steps
    c.inputs.kills c.requirements)).course.stop = none := h
  simp only [saturateRequirements, Metered.result, hstop]
  exact ⟨rfl, rfl⟩

theorem saturates_saturate (c : Checker) (clock : Clock) :
    c.Saturates (c.saturate clock).checker (c.saturate clock).outcome := by
  generalize hm : metered c.budget clock (Solver.inclusionCourse c.inputs.steps c.inclusions) = m
  have hcourse : m.course = c.inclusionCourse (clock.advance 1) := by
    rw [← hm]
    rfl
  cases hstop : m.course.stop with
  | some stop =>
    simp only [saturate, hm, Metered.result, hstop]
    rw [hcourse] at hstop ⊢
    exact .stoppedAtInclusions hstop
  | none =>
    simp only [saturate, hm, Metered.result, hstop]
    rw [hcourse] at hstop ⊢
    change c.Saturates ((c.included (clock.advance 1)).saturateRequirements (m.ended.advance 1)).checker
      (((c.included (clock.advance 1)).saturateRequirements (m.ended.advance 1)).outcome.map _)
    cases hstop' : ((c.included (clock.advance 1)).requirementCourse
      ((m.ended.advance 1).advance 1)).stop with
    | some stop =>
      obtain ⟨hchecker, houtcome⟩ := saturateRequirements_of_stop hstop'
      rw [hchecker, houtcome]
      exact .stoppedAtRequirements hstop hstop'
    | none =>
      obtain ⟨hchecker, houtcome⟩ := saturateRequirements_of_stop_eq_none hstop'
      rw [hchecker, houtcome]
      exact .settled hstop hstop'

/-- A run ends as the saturation does, and reports what the checker then finds. -/
theorem saturates_run (c : Checker) (clock : Clock) :
    ∃ outcome, c.Saturates (c.run clock).checker outcome ∧
      (c.run clock).outcome = outcome.map fun passes =>
        ⟨(c.run clock).checker.violations, (c.run clock).checker.inclusions,
          (c.run clock).checker.requirements, passes⟩ := by
  refine ⟨(c.saturate (clock.advance 1)).outcome, ?_⟩
  have hsaturates := c.saturates_saturate (clock.advance 1)
  rw [run]
  split
  · next h =>
    rw [h] at hsaturates ⊢
    exact ⟨hsaturates, rfl⟩
  · next h =>
    rw [h] at hsaturates ⊢
    exact ⟨hsaturates, rfl⟩

end Checker

/-! ## Checks from scratch -/

namespace Inputs

/-- The course of the inclusions, without limits. -/
def inclusionCourse (i : Inputs) : Course Inclusion Stop :=
  Solver.inclusionCourse i.steps i.inclusions fun _ => none

/-- Passes of the two saturations, without limits. -/
def passCounts (i : Inputs) : PassCounts :=
  ⟨i.inclusionCourse.passes, i.requirementCourse.passes⟩

theorem stop_inclusionCourse (i : Inputs) : i.inclusionCourse.stop = none :=
  inclusionCourse_covers.stop_eq_none fun _ => rfl

theorem inclusions_passCounts (i : Inputs) : i.passCounts.inclusions = i.inclusionCourse.rounds.length + 1 :=
  Deduction.passes_of_covers inclusionCourse_covers i.stop_inclusionCourse

theorem requirements_passCounts (i : Inputs) : i.passCounts.requirements = i.requirementCourse.rounds.length + 1 :=
  Deduction.passes_of_covers i.covers_requirementCourse i.stop_requirementCourse

end Inputs

namespace Checker

variable {c : Checker} {clock : Clock}

/-! A checker whose inclusions are still the given ones goes the way of the course without limits, and so does
one that has them saturated and whose requirements are still the borrows. -/

theorem covers_inclusionCourse (c : Checker) (clock : Clock)
    (hinc : c.inclusions = c.inputs.inclusions) :
    (Deduction.Stage.start (inclusionDeduction c.inputs.steps c.inputs.inclusions) c.inputs.inclusions
      possible_inclusion_of_mem).Covers (c.budget.gate clock) 0 (c.inclusionCourse clock) := by
  rw [inclusionCourse, hinc]
  exact inclusionCourse_covers

theorem covers_requirementCourse (c : Checker) (clock : Clock)
    (hinc : c.inclusions = c.inputs.inclusionClosure) (hreq : c.requirements = c.inputs.borrows) :
    (Requirement.firstStage c.inputs.inclusionClosure c.inputs.steps c.inputs.kills
      c.inputs.borrows).Covers (c.budget.gate clock) 0 (c.requirementCourse clock) := by
  rw [requirementCourse, hinc, hreq]
  exact requirementCourse_covers

theorem inclusionCourse_eq (hinc : c.inclusions = c.inputs.inclusions)
    (h : (c.inclusionCourse clock).stop = none) : c.inclusionCourse clock = c.inputs.inclusionCourse :=
  (covers_inclusionCourse c clock hinc).eq_of_stop_eq_none inclusionCourse_covers h
    c.inputs.stop_inclusionCourse

theorem requirementCourse_eq (hinc : c.inclusions = c.inputs.inclusionClosure)
    (hreq : c.requirements = c.inputs.borrows) (h : (c.requirementCourse clock).stop = none) :
    c.requirementCourse clock = c.inputs.requirementCourse :=
  (covers_requirementCourse c clock hinc hreq).eq_of_stop_eq_none c.inputs.covers_requirementCourse h
    c.inputs.stop_requirementCourse

theorem inclusions_included (hinc : c.inclusions = c.inputs.inclusions)
    (h : (c.inclusionCourse clock).stop = none) :
    (c.included clock).inclusions = c.inputs.inclusionClosure := by
  rw [included, inclusionCourse_eq hinc h, hinc]
  rfl

/-- Saturation of a new checker that is not stopped ends like saturation without limits. -/
theorem Saturates.eq_of_start {i : Inputs} {budget : Budget} {passes : PassCounts}
    (h : (Checker.start i budget).Saturates c (.ok passes)) :
    c = { Checker.saturated i with budget } ∧ passes = i.passCounts := by
  cases h with
  | @settled clock clock' hstop hstop' =>
    have hinc : ((Checker.start i budget).included clock).inclusions = i.inclusionClosure :=
      inclusions_included rfl hstop
    have hfirst : (Checker.start i budget).inclusionCourse clock = i.inclusionCourse :=
      inclusionCourse_eq rfl hstop
    have hsecond : ((Checker.start i budget).included clock).requirementCourse clock' =
        i.requirementCourse :=
      requirementCourse_eq hinc rfl hstop'
    constructor
    · simp only [concluded, recorded, hsecond, hinc]
      rfl
    · rw [hfirst, hsecond]
      rfl

variable {n : Int}

theorem inclusionCourse_stopped_iff {i : Inputs} :
    ((Checker.start i { maxPasses := some n }).inclusionCourse clock).stop ≠ none ↔
      n < i.passCounts.inclusions :=
  (covers_inclusionCourse (Checker.start i _) clock rfl).stopped_iff_lt_passes inclusionCourse_covers
    i.stop_inclusionCourse

theorem requirementCourse_stopped_iff {i : Inputs} {clock' : Clock}
    (h : ((Checker.start i { maxPasses := some n }).inclusionCourse clock).stop = none) :
    (((Checker.start i { maxPasses := some n }).included clock).requirementCourse clock').stop ≠ none ↔
      n < i.passCounts.requirements :=
  (covers_requirementCourse _ clock' (inclusions_included rfl h) rfl).stopped_iff_lt_passes
    i.covers_requirementCourse i.stop_requirementCourse

/-- A new checker that overruns a limit of passes needs more of them; the overrun names the first relation
that does, and comes after as many passes as the limit allows. -/
theorem Saturates.overrun_of_start {i : Inputs} {e : Exhausted}
    (h : (Checker.start i { maxPasses := some n }).Saturates c (.error e)) :
    (n < i.passCounts.inclusions ∨ n < i.passCounts.requirements) ∧
      e.relation = (if n < i.passCounts.inclusions then .inclusions else .requirements) ∧
      (e.passes : ℤ) = max n 0 := by
  cases h with
  | @stoppedAtInclusions clock stop hstop =>
    have hlt : n < i.passCounts.inclusions :=
      inclusionCourse_stopped_iff.1 (Option.ne_none_iff_exists'.2 ⟨stop, hstop⟩)
    have hcovers := covers_inclusionCourse (Checker.start i { maxPasses := some n }) clock rfl
    exact ⟨.inl hlt, (if_pos hlt).symm, hcovers.passes_of_passLimit hstop⟩
  | @stoppedAtRequirements clock clock' stop hstop hstop' =>
    have hle : ¬n < i.passCounts.inclusions := fun hlt => inclusionCourse_stopped_iff.2 hlt hstop
    have hlt : n < i.passCounts.requirements :=
      (requirementCourse_stopped_iff hstop).1 (Option.ne_none_iff_exists'.2 ⟨stop, hstop'⟩)
    have hcovers := covers_requirementCourse _ clock' (inclusions_included rfl hstop) rfl
    exact ⟨.inr hlt, (if_neg hle).symm, hcovers.passes_of_passLimit hstop'⟩

/-- A new checker that keeps within a limit of passes needs no more of them. -/
theorem Saturates.passCounts_le_of_start {i : Inputs} {passes : PassCounts}
    (h : (Checker.start i { maxPasses := some n }).Saturates c (.ok passes)) :
    i.passCounts.inclusions ≤ n ∧ i.passCounts.requirements ≤ n := by
  cases h with
  | settled hstop hstop' =>
    constructor
    · exact not_lt.1 fun hlt => inclusionCourse_stopped_iff.2 hlt hstop
    · exact not_lt.1 fun hlt => (requirementCourse_stopped_iff hstop).2 hlt hstop'

end Checker

/-- What a check without limits returns. -/
def Inputs.result (i : Inputs) : CheckResult :=
  ⟨(Checker.saturated i).violations, i.inclusionClosure, i.requirementClosure, i.passCounts⟩

/-- A check ends as the saturation of its checker does: with the overrun, or with the result that there is
without limits. -/
theorem check_outcome_cases (i : Inputs) (budget : Budget) (clock : Clock) :
    (∃ c e, (Checker.start i budget).Saturates c (.error e) ∧
        (check i budget clock).outcome = .error e) ∨
      ∃ c passes, (Checker.start i budget).Saturates c (.ok passes) ∧
        (check i budget clock).outcome = .ok i.result := by
  obtain ⟨outcome, hsaturates, houtcome⟩ := (Checker.start i budget).saturates_run clock
  rw [check, houtcome]
  cases outcome with
  | error e => exact .inl ⟨_, e, hsaturates, rfl⟩
  | ok passes =>
    obtain ⟨hchecker, hpasses⟩ := hsaturates.eq_of_start
    refine .inr ⟨_, passes, hsaturates, ?_⟩
    rw [hchecker, hpasses]
    rfl

/-- A check without limits ends with a result, and a check under a budget, whatever the clock reads, ends with
an overrun or with that same result. A limit of `n` passes alone is overrun exactly if one of the two
saturations makes more than `n` passes without limits; the overrun names the inclusions if they do and the
requirements otherwise, and comes after `n` passes, or none if `n` is negative. -/
theorem check_limited (i : Inputs) (clock₀ : Clock) :
    ∃ result, (check i {} clock₀).outcome = .ok result ∧
      (∀ budget clock, (∃ e, (check i budget clock).outcome = .error e) ∨
        (check i budget clock).outcome = .ok result) ∧
      ∀ (n : Int) (clock : Clock),
        ((∃ e, (check i { maxPasses := some n } clock).outcome = .error e) ↔
          n < result.passes.inclusions ∨ n < result.passes.requirements) ∧
        ∀ e, (check i { maxPasses := some n } clock).outcome = .error e →
          e.relation = (if n < result.passes.inclusions then .inclusions else .requirements) ∧
          (e.passes : ℤ) = max n 0 := by
  have hunlimited : (check i {} clock₀).outcome = .ok i.result := by
    obtain ⟨passes, hok⟩ := check_unlimited i clock₀
    rcases check_outcome_cases i {} clock₀ with ⟨_, e, -, herror⟩ | ⟨_, _, -, hresult⟩
    · rw [hok] at herror
      cases herror
    · exact hresult
  refine ⟨i.result, hunlimited, fun budget clock => ?_, fun n clock => ?_⟩
  · rcases check_outcome_cases i budget clock with ⟨_, e, -, herror⟩ | ⟨_, _, -, hresult⟩
    · exact .inl ⟨e, herror⟩
    · exact .inr hresult
  · rcases check_outcome_cases i { maxPasses := some n } clock with
      ⟨c, e, hsaturates, herror⟩ | ⟨c, passes, hsaturates, hresult⟩
    · obtain ⟨hlt, hrelation, hpasses⟩ := hsaturates.overrun_of_start
      refine ⟨⟨fun _ => hlt, fun _ => ⟨e, herror⟩⟩, fun e' herror' => ?_⟩
      obtain rfl : e = e' := Except.error.inj (herror.symm.trans herror')
      exact ⟨hrelation, hpasses⟩
    · obtain ⟨hinc, hreq⟩ := hsaturates.passCounts_le_of_start
      have hno : ¬∃ e, (check i { maxPasses := some n } clock).outcome = .error e := by
        rintro ⟨e, herror⟩
        rw [hresult] at herror
        cases herror
      refine ⟨⟨fun h => absurd h hno, fun h => ?_⟩, fun e herror => absurd ⟨e, herror⟩ hno⟩
      exact absurd h (not_or.2 ⟨not_lt.2 hinc, not_lt.2 hreq⟩)

end LoanCheck.Solver

import LoanCheck.Proofs.Solver.Limits
import LoanCheck.Proofs.Solver.Traces

/-!
# Checkers over time

A checker may be asked many things one after another (`Operation`), each under the budget it has then, and any
saturation may be stopped. `Moment.after` is the checker after a history of operations.

`Checker.Sound` is what every history keeps: each relation is the given one or the saturated one, the
requirements are saturated only together with the inclusions, and no premise is recorded that saturation
without limits would not record. A retry goes on from there: from the given relations it takes the same rounds
again, from the saturated ones it finds nothing to add (`Checker.Sound.saturates`). Once a saturation has come
to its end the checker is the one that saturation without limits makes (`Checker.Sound.settled_of_saturates`),
and it stays so (`Checker.Settled.saturates`). An operation saturates the checker or leaves all but its budget
(`Operation.perform_cases`), so histories keep what saturation keeps (`Moment.after_of_saturates`), and
`Moment.relations_after` puts this together.
-/

namespace LoanCheck.Solver

/-! ## Operations and histories -/

/-- What can be asked of a checker. -/
inductive Operation where
  | saturate
  | run
  | replaceBudget (budget : Budget)
  | isError (point : Point)
  | violationsAt (point : Point)
  | violations

/-- What a checker answers. -/
inductive Answer where
  | saturated (passes : PassCounts)
  | checked (result : CheckResult)
  | replaced
  | verdict (isError : Bool)
  | reports (violations : List Violation)

/-- A checker and the clock it reads. -/
structure Moment where
  checker : Checker
  clock : Clock

def Progress.map {α β : Type} (f : α → β) (p : Progress α) : Progress β :=
  ⟨p.checker, p.clock, p.events, p.outcome.map f⟩

/-- A saturation, asked for or as part of a run, came to its end. -/
def Progress.Saturates (p : Progress Answer) : Prop :=
  (∃ passes, p.outcome = .ok (.saturated passes)) ∨ ∃ result, p.outcome = .ok (.checked result)

/-- One operation. -/
def Operation.perform (m : Moment) : Operation → Progress Answer
  | saturate => (m.checker.saturate m.clock).map .saturated
  | run => (m.checker.run m.clock).map .checked
  | replaceBudget budget => ⟨{ m.checker with budget }, m.clock, [], .ok .replaced⟩
  | isError p => ⟨m.checker, m.clock, [], .ok (.verdict (m.checker.isError p))⟩
  | violationsAt p => ⟨m.checker, m.clock, [], .ok (.reports (m.checker.violationsAt p))⟩
  | violations => ⟨m.checker, m.clock, [], .ok (.reports m.checker.violations)⟩

/-- The checker and the clock after some operations. -/
def Moment.after (m : Moment) (history : List Operation) : Moment :=
  history.foldl (fun m op => ⟨(op.perform m).checker, (op.perform m).clock⟩) m

/-! ## Retries -/

/-- A course from a closed relation has no rounds. -/
theorem Deduction.rounds_eq_nil_of_closed {α σ ε : Type} [Ord α] [Std.TransOrd α] [Std.LawfulEqOrd α]
    [DecidableEq α] {d : Deduction α σ} {seed : Relation α} {h : ∀ a ∈ seed, d.Possible a}
    {gate : ℕ → Option ε} {c : Course α ε} (hc : (Stage.start d seed h).Covers gate 0 c)
    (hclosed : d.Closed (· ∈ seed)) : c.rounds = [] := by
  by_contra hne
  have hfound := hc.found 0 (List.length_pos_iff.2 hne)
  refine hfound (Std.ExtTreeMap.eq_empty_iff_forall_not_mem.2 fun a ha => ?_)
  obtain ⟨hnew, hold⟩ := (Stage.mem_found_after h 0 a).1 ha
  rcases hnew with hnew | ⟨f, g, hf, hg, hd⟩
  · exact hold hnew
  · exact hold (hclosed f g a hf hg hd)

namespace Inputs

variable (i : Inputs) {ε : Type} (gate : ℕ → Option ε)

theorem rounds_inclusionClosure :
    (Solver.inclusionCourse i.steps i.inclusionClosure gate).rounds = [] := by
  refine Deduction.rounds_eq_nil_of_closed inclusionCourse_covers ?_
  have hclosed := (isLeast_last_inclusionCourse i.stop_inclusionCourse).1.2
  exact Inclusion.closed_deduction_iff.2 hclosed

theorem rounds_requirementClosure :
    (Solver.requirementCourse i.inclusionClosure i.steps i.kills i.requirementClosure gate).rounds =
      [] := by
  refine Deduction.rounds_eq_nil_of_closed requirementCourse_covers ?_
  have hclosed := (isLeast_last_requirementCourse i.stop_requirementCourse).1.2
  exact Requirement.closed_deduction_iff.2 hclosed

end Inputs

namespace Provenance

/-- Every recorded premise is recorded in the other as well. -/
def Within (p q : Provenance) : Prop :=
  ∀ f g : Requirement, p[f]? = some g → q[f]? = some g

variable {p : Provenance} {rounds all : List (Round Requirement)}

/-- Recording the first rounds of a course keeps within the record of the whole course. -/
theorem Within.recordRounds (hp : p.Within (Provenance.recordRounds ∅ all)) (h : rounds <+: all) :
    (p.recordRounds rounds).Within (Provenance.recordRounds ∅ all) := by
  intro f g hg
  rw [getElem?_recordRounds] at hg
  cases hold : p[f]? with
  | some g' =>
    rw [hold] at hg
    rw [← hg]
    exact hp f g' hold
  | none =>
    rw [hold, Option.none_or] at hg
    obtain ⟨rest, rfl⟩ := h
    simp [getElem?_recordRounds, List.findSome?_append, hg]

/-- Recording a whole course over a part of its record completes it. -/
theorem Within.recordRounds_eq (hp : p.Within (Provenance.recordRounds ∅ all)) :
    p.recordRounds all = Provenance.recordRounds ∅ all := by
  refine Std.ExtTreeMap.ext_getElem? fun f => ?_
  rw [getElem?_recordRounds, getElem?_recordRounds, Std.ExtTreeMap.getElem?_empty, Option.none_or]
  cases hold : p[f]? with
  | some g =>
    have := hp f g hold
    rw [getElem?_recordRounds, Std.ExtTreeMap.getElem?_empty, Option.none_or] at this
    rw [this]
    rfl
  | none => rfl

end Provenance

/-! ## What every history keeps -/

namespace Checker

/-- A checker of the inputs that has nothing but given and saturated relations. -/
structure Sound (i : Inputs) (c : Checker) : Prop where
  inputs : c.inputs = i
  inclusions : c.inclusions = i.inclusions ∨ c.inclusions = i.inclusionClosure
  requirements : c.requirements = i.borrows ∨
    c.requirements = i.requirementClosure ∧ c.inclusions = i.inclusionClosure ∧
      c.provenance = i.premises
  within : c.provenance.Within i.premises

/-- A checker of the inputs that has what saturation without limits ends with. -/
structure Settled (i : Inputs) (c : Checker) : Prop where
  inputs : c.inputs = i
  inclusions : c.inclusions = i.inclusionClosure
  requirements : c.requirements = i.requirementClosure
  provenance : c.provenance = i.premises

variable {i : Inputs} {c c' : Checker} {clock : Clock}

theorem sound_start (budget : Budget) : (Checker.start i budget).Sound i where
  inputs := rfl
  inclusions := .inl rfl
  requirements := .inl rfl
  within f g h := by simp [Checker.start] at h

theorem Settled.sound (h : c.Settled i) : c.Sound i where
  inputs := h.inputs
  inclusions := .inr h.inclusions
  requirements := .inr ⟨h.requirements, h.inclusions, h.provenance⟩
  within f g hg := by rwa [h.provenance] at hg

theorem Sound.replaceBudget {budget : Budget} (h : c.Sound i) : ({ c with budget } : Checker).Sound i :=
  ⟨h.inputs, h.inclusions, h.requirements, h.within⟩

theorem Settled.replaceBudget {budget : Budget} (h : c.Settled i) :
    ({ c with budget } : Checker).Settled i :=
  ⟨h.inputs, h.inclusions, h.requirements, h.provenance⟩

/-- Where the requirements are saturated no premise is missing. If the borrows were so from the beginning,
there is none. -/
theorem Sound.provenance_eq (h : c.Sound i) (hreq : c.requirements = i.requirementClosure) :
    c.provenance = i.premises := by
  rcases h.requirements with hborrows | ⟨-, -, hpremises⟩
  · have hempty : i.premises = ∅ := by
      refine Std.ExtTreeMap.eq_empty_iff_forall_not_mem.2 fun f hf => ?_
      obtain ⟨hclosure, hnew⟩ := Inputs.mem_premises.1 hf
      rw [← hreq, hborrows] at hclosure
      exact hnew hclosure
    rw [hempty]
    refine Std.ExtTreeMap.eq_empty_iff_forall_not_mem.2 fun f hf => ?_
    obtain ⟨g, hg⟩ := Option.isSome_iff_exists.1 (Std.ExtTreeMap.mem_iff_isSome_getElem?.1 hf)
    have := h.within f g hg
    rw [hempty] at this
    simp at this
  · exact hpremises

/-- Reports are made from the inputs, the requirements and the premises alone. -/
theorem violations_congr (hinputs : c.inputs = c'.inputs) (hreq : c.requirements = c'.requirements)
    (hpremises : c.provenance = c'.provenance) : c.violations = c'.violations := by
  cases c
  cases c'
  cases hinputs
  cases hreq
  cases hpremises
  rfl

theorem rounds_inclusionCourse (clock : Clock) (hinc : c.inclusions = c.inputs.inclusionClosure) :
    (c.inclusionCourse clock).rounds = [] := by
  rw [inclusionCourse, hinc]
  exact c.inputs.rounds_inclusionClosure _

theorem rounds_requirementCourse (clock : Clock) (hinc : c.inclusions = c.inputs.inclusionClosure)
    (hreq : c.requirements = c.inputs.requirementClosure) :
    (c.requirementCourse clock).rounds = [] := by
  rw [requirementCourse, hinc, hreq]
  exact c.inputs.rounds_requirementClosure _

/-- Inclusions that come to their end are saturated, whichever they were before. -/
theorem Sound.included (h : c.Sound i) (hstop : (c.inclusionCourse clock).stop = none) :
    (c.included clock).Sound i ∧ (c.included clock).inclusions = i.inclusionClosure := by
  obtain rfl := h.inputs
  have hinc : (c.included clock).inclusions = c.inputs.inclusionClosure := by
    rcases h.inclusions with hinc | hinc
    · exact inclusions_included hinc hstop
    · rw [Checker.included, Course.last, rounds_inclusionCourse clock hinc]
      exact hinc
  refine ⟨⟨rfl, .inr hinc, ?_, h.within⟩, hinc⟩
  exact h.requirements.imp id fun hreq => ⟨hreq.1, hinc, hreq.2.2⟩

/-- A course of requirements that is stopped leaves no premise but those of a whole course. -/
theorem Sound.recorded (h : c.Sound i) (hinc : c.inclusions = i.inclusionClosure) :
    (c.recorded clock).Sound i := by
  obtain rfl := h.inputs
  rcases h.requirements with hreq | ⟨hreq, hrest⟩
  · have hfirst := (covers_requirementCourse c clock hinc hreq).isPrefix_rounds
      c.inputs.covers_requirementCourse c.inputs.stop_requirementCourse
    exact ⟨rfl, h.inclusions, .inl hreq, h.within.recordRounds hfirst⟩
  · rw [Checker.recorded, rounds_requirementCourse clock hinc hreq]
    exact h

/-- Requirements that come to their end are saturated with all their premises, whichever they were before. -/
theorem Sound.concluded (h : c.Sound i) (hinc : c.inclusions = i.inclusionClosure)
    (hstop : (c.requirementCourse clock).stop = none) : (c.concluded clock).Settled i := by
  obtain rfl := h.inputs
  rcases h.requirements with hreq | ⟨hreq, -, hpremises⟩
  · have hcourse := requirementCourse_eq hinc hreq hstop
    refine ⟨rfl, hinc, ?_, ?_⟩
    · rw [Checker.concluded, hcourse, hreq]
      rfl
    · rw [Checker.concluded, Checker.recorded, hcourse]
      exact h.within.recordRounds_eq
  · have hrounds := rounds_requirementCourse clock hinc hreq
    refine ⟨rfl, hinc, ?_, ?_⟩
    · rw [Checker.concluded, Course.last, hrounds]
      exact hreq
    · rw [Checker.concluded, Checker.recorded, hrounds]
      exact hpremises

/-- Saturation, stopped or not, leaves a checker with nothing but given and saturated relations. -/
theorem Sound.saturates {outcome : Except Exhausted PassCounts} (h : c.Sound i)
    (hs : c.Saturates c' outcome) : c'.Sound i := by
  cases hs with
  | stoppedAtInclusions => exact h
  | stoppedAtRequirements hstop =>
    obtain ⟨hsound, hinc⟩ := h.included hstop
    exact hsound.recorded hinc
  | settled hstop hstop' =>
    obtain ⟨hsound, hinc⟩ := h.included hstop
    exact (hsound.concluded hinc hstop').sound

/-- Saturation that is not stopped ends as it does without limits. -/
theorem Sound.settled_of_saturates {passes : PassCounts} (h : c.Sound i)
    (hs : c.Saturates c' (.ok passes)) : c'.Settled i := by
  cases hs with
  | settled hstop hstop' =>
    obtain ⟨hsound, hinc⟩ := h.included hstop
    exact hsound.concluded hinc hstop'

/-- A settled checker stays as it is, even if it is saturated again and stopped. -/
theorem Settled.saturates {outcome : Except Exhausted PassCounts} (h : c.Settled i)
    (hs : c.Saturates c' outcome) : c'.Settled i := by
  cases hs with
  | stoppedAtInclusions => exact h
  | stoppedAtRequirements hstop =>
    obtain ⟨hsound, hinc⟩ := h.sound.included hstop
    exact ⟨h.inputs, hinc, h.requirements, (hsound.recorded hinc).provenance_eq h.requirements⟩
  | settled hstop hstop' =>
    obtain ⟨hsound, hinc⟩ := h.sound.included hstop
    exact hsound.concluded hinc hstop'

end Checker

/-! ## Histories -/

section Histories

variable {i : Inputs} {m : Moment}

/-- An operation saturates the checker or leaves all of it but its budget. -/
theorem Operation.perform_cases (m : Moment) (op : Operation) :
    (∃ outcome, m.checker.Saturates (op.perform m).checker outcome ∧
        ((op.perform m).Saturates → ∃ passes, outcome = .ok passes)) ∨
      ∃ budget, (op.perform m).checker = { m.checker with budget } ∧ ¬(op.perform m).Saturates := by
  cases op with
  | saturate =>
    refine .inl ⟨_, m.checker.saturates_saturate m.clock, fun hp => ?_⟩
    cases houtcome : (m.checker.saturate m.clock).outcome with
    | error e => simp [Progress.Saturates, perform, Progress.map, houtcome, Except.map] at hp
    | ok passes => exact ⟨passes, rfl⟩
  | run =>
    obtain ⟨outcome, hs, houtcome⟩ := m.checker.saturates_run m.clock
    refine .inl ⟨outcome, hs, fun hp => ?_⟩
    cases outcome with
    | error e => simp [Progress.Saturates, perform, Progress.map, houtcome, Except.map] at hp
    | ok passes => exact ⟨passes, rfl⟩
  | replaceBudget budget => exact .inr ⟨budget, rfl, by simp [Progress.Saturates, perform]⟩
  | isError p => exact .inr ⟨m.checker.budget, rfl, by simp [Progress.Saturates, perform]⟩
  | violationsAt p => exact .inr ⟨m.checker.budget, rfl, by simp [Progress.Saturates, perform]⟩
  | violations => exact .inr ⟨m.checker.budget, rfl, by simp [Progress.Saturates, perform]⟩

/-- A saturation that comes to its end, alone or as part of a run, settles the checker. -/
theorem Operation.settled_of_saturates (op : Operation) (h : m.checker.Sound i)
    (hp : (op.perform m).Saturates) : (op.perform m).checker.Settled i := by
  rcases perform_cases m op with ⟨outcome, hs, hok⟩ | ⟨_, -, hno⟩
  · obtain ⟨passes, rfl⟩ := hok hp
    exact h.settled_of_saturates hs
  · exact absurd hp hno

/-- What saturation keeps under any budget is kept by a history. -/
theorem Moment.after_of_saturates {P : Checker → Prop}
    (hsaturates : ∀ {c c' outcome}, P c → c.Saturates c' outcome → P c')
    (hbudget : ∀ {c budget}, P c → P { c with budget }) (history : List Operation)
    (h : P m.checker) : P (m.after history).checker := by
  induction history generalizing m with
  | nil => exact h
  | cons op history ih =>
    have hstep : P (op.perform m).checker := by
      rcases op.perform_cases m with ⟨_, hs, -⟩ | ⟨_, hchecker, -⟩
      · exact hsaturates h hs
      · rw [hchecker]
        exact hbudget h
    exact ih hstep

theorem Moment.after_append (m : Moment) (earlier later : List Operation) :
    m.after (earlier ++ later) = (m.after earlier).after later :=
  List.foldl_append

end Histories

/-- A checker over any history of operations, with any budgets, any number of which may be overrun. Let `fresh`
be a new checker of the same inputs, saturated without limits; its relations are the least closed ones. At any
time the inclusions are the given or the saturated ones; the requirements are the borrows, or the saturated
ones and then the inclusions are saturated too; all recorded premises are those of `fresh`, and none is missing
once the requirements are saturated. After the first saturation that comes to its end, relations, premises and
reports are those of `fresh`, whatever comes later. -/
theorem Moment.relations_after (i : Inputs) (budget : Budget) (clock clock₀ : Clock) :
    let fresh := ((Checker.start i {}).saturate clock₀).checker
    let first : Moment := ⟨Checker.start i budget, clock⟩
    IsLeast {P : Set Inclusion | (∀ f ∈ i.inclusions, f ∈ P) ∧ Inclusion.Closed i.steps P}
        {f | f ∈ fresh.inclusions} ∧
      IsLeast {P : Set Requirement | (∀ f ∈ i.borrows, f ∈ P) ∧
        Requirement.Closed fresh.inclusions i.steps i.kills P} {f | f ∈ fresh.requirements} ∧
      (∀ history, let c := (first.after history).checker
        (c.inclusions = i.inclusions ∨ c.inclusions = fresh.inclusions) ∧
        (c.requirements = i.borrows ∨
          c.requirements = fresh.requirements ∧ c.inclusions = fresh.inclusions) ∧
        (∀ f g : Requirement, c.provenance[f]? = some g → fresh.provenance[f]? = some g) ∧
        (c.requirements = fresh.requirements → c.provenance = fresh.provenance)) ∧
      ∀ earlier op later, (Operation.perform (first.after earlier) op).Saturates →
        let c := (first.after (earlier ++ op :: later)).checker
        c.inclusions = fresh.inclusions ∧ c.requirements = fresh.requirements ∧
          c.provenance = fresh.provenance ∧ c.violations = fresh.violations := by
  intro fresh first
  have hfresh : fresh = Checker.saturated i := (Checker.saturate_unlimited i clock₀).1
  have hsound : ∀ history, (first.after history).checker.Sound i := fun history =>
    Moment.after_of_saturates .saturates .replaceBudget history (Checker.sound_start budget)
  rw [hfresh]
  refine ⟨isLeast_last_inclusionCourse i.stop_inclusionCourse,
    isLeast_last_requirementCourse i.stop_requirementCourse, fun history => ?_,
    fun earlier op later hp => ?_⟩
  · have h := hsound history
    exact ⟨h.inclusions, h.requirements.imp id fun hreq => ⟨hreq.1, hreq.2.1⟩, h.within,
      h.provenance_eq⟩
  · have h : (first.after (earlier ++ op :: later)).checker.Settled i := by
      rw [Moment.after_append]
      exact Moment.after_of_saturates .saturates .replaceBudget later
        (op.settled_of_saturates (hsound earlier) hp)
    exact ⟨h.inclusions, h.requirements, h.provenance,
      Checker.violations_congr h.inputs h.requirements h.provenance⟩

end LoanCheck.Solver

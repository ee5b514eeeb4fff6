import LoanCheck.Solver.Budget
import LoanCheck.Solver.Provenance
import LoanCheck.Solver.Violation

/-!
# The borrow check

From six base relations a checker saturates inclusions, then requirements, and reports every loan that
is invalidated at a point while a region live there requires it. `Checker.saturate` may be stopped by
the budget; the checker then keeps what it had, apart from inclusions that were already saturated and the
premises that were already recorded. `check` is one run from scratch.

The next use of a loan is searched for in rings: all points one step on from an invalidation, then all
points one step further. Every step is followed once, so the search ends, and the first ring with a use has a
nearest one.
-/

namespace LoanCheck.Solver

/-- The base relations of a check. -/
structure Inputs where
  steps : Relation Step := ∅
  inclusions : Relation Inclusion := ∅
  /-- Where a region takes a loan. -/
  borrows : Relation Requirement := ∅
  live : Relation Liveness := ∅
  kills : Relation Kill := ∅
  invalidations : Relation Invalidation := ∅
deriving DecidableEq

namespace Inputs

/-- Every point that a fact mentions. -/
def pointSet (i : Inputs) : Relation Point :=
  Relation.ofList <|
    i.steps.toList.flatMap (fun e => [e.src, e.dst]) ++ i.inclusions.toList.map (·.point) ++
      i.borrows.toList.map (·.point) ++ i.live.toList.map (·.point) ++
      i.kills.toList.map (·.point) ++ i.invalidations.toList.map (·.point)

/-- Every point that a fact mentions, ascending. -/
def knownPoints (i : Inputs) : List Point :=
  i.pointSet.toList

/-- The points where something is invalidated, ascending. -/
def invalidationPoints (i : Inputs) : List Point :=
  (Relation.ofList (i.invalidations.toList.map (·.point))).toList

/-- The loans invalidated at a point, ascending. -/
def loansInvalidatedAt (i : Inputs) (p : Point) : List Loan :=
  (i.invalidations.toList.filter (·.point = p)).map (·.loan)

end Inputs

/-! ## Detection -/

/-- Some region live at the point requires the loan there. -/
def loanLiveAt (requirements : Relation Requirement) (live : Relation Liveness) (loan : Loan)
    (point : Point) : Bool :=
  live.toList.any fun l => l.point = point && requirements.contains ⟨l.region, loan, point⟩

/-- The point invalidates a loan that is live there. -/
def isError (requirements : Relation Requirement) (live : Relation Liveness)
    (invalidations : Relation Invalidation) (point : Point) : Bool :=
  invalidations.toList.any fun i => i.point = point && loanLiveAt requirements live i.loan point

/-- The least region that is live at a point and requires a loan there. -/
def requiringRegion? (requirements : Relation Requirement) (live : Relation Liveness) (loan : Loan)
    (point : Point) : Option Region :=
  (live.toList.find? fun l =>
    l.point = point && requirements.contains ⟨l.region, loan, point⟩).map (·.region)

/-! ## Explanation -/

/-- A list without repetitions of neighbours. -/
def dedupAdjacent : List Region → List Region
  | a :: b :: rest => if a = b then dedupAdjacent (b :: rest) else a :: dedupAdjacent (b :: rest)
  | l => l

/-- How the search for the next use treats a point. -/
inductive Sighting where
  /-- The region is live here and requires the loan. -/
  | use
  /-- The obligation goes on from here. -/
  | passage
  /-- The obligation does not reach this point or ends here. -/
  | deadEnd
deriving DecidableEq, Repr

/-- The points one step on from those of a ring where the obligation goes on, in order, and the steps that
are left: what leaves a point is followed once. -/
def nextRing (sight : Point → Sighting) : List Point → Successors → List Point × Successors
  | [], left => ([], left)
  | q :: ring, left =>
    if sight q = .passage then
      let rest := nextRing sight ring (left.erase q)
      (left.get q ++ rest.1, rest.2)
    else nextRing sight ring left

/-- Search for a use from one ring of points to the next. It ends where no ring follows a step that is
left. -/
def searchUse (sight : Point → Sighting) (ring : List Point) (left : Successors) : Option Point :=
  match ring.find? (sight · = .use) with
  | some q => some q
  | none =>
    let next := nextRing sight ring left
    if next.2.size < left.size then searchUse sight next.1 next.2 else none
termination_by left.size

/-! ## Checkers -/

/-- A check in progress. -/
structure Checker where
  inputs : Inputs
  budget : Budget
  inclusions : Relation Inclusion
  requirements : Relation Requirement
  provenance : Provenance

/-- What a check reports while it runs. -/
inductive Event where
  | saturated (relation : Derived) (facts passes : Nat) (elapsed : Float)
  | violationsFound (count : Nat)

/-- Passes of the two saturations. -/
structure PassCounts where
  inclusions : Nat
  requirements : Nat
deriving DecidableEq, Repr

/-- A step of a check: the checker and the clock after it, the events, and its outcome. -/
structure Progress (α : Type) where
  checker : Checker
  clock : Clock
  events : List Event
  outcome : Except Exhausted α

namespace Checker

/-- A check that has derived nothing yet. -/
def start (inputs : Inputs) (budget : Budget) : Checker where
  inputs := inputs
  budget := budget
  inclusions := inputs.inclusions
  requirements := inputs.borrows
  provenance := ∅

/-- Saturates the requirements over the checker's inclusions. -/
def saturateRequirements (c : Checker) (clock : Clock) : Progress Nat :=
  let m := metered c.budget clock
    (requirementCourse c.inclusions c.inputs.steps c.inputs.kills c.requirements)
  let provenance := c.provenance.recordRounds m.course.rounds
  match m.result .requirements c.requirements with
  | .error e => ⟨{ c with provenance }, m.ended, [], .error e⟩
  | .ok requirements =>
    let read := m.ended.advance 1
    ⟨{ c with requirements, provenance }, read,
      [.saturated .requirements requirements.size m.course.passes (read.last - m.started.last)],
      .ok m.course.passes⟩

/-- Saturates the inclusions and then the requirements. -/
def saturate (c : Checker) (clock : Clock) : Progress PassCounts :=
  let m := metered c.budget clock (inclusionCourse c.inputs.steps c.inclusions)
  match m.result .inclusions c.inclusions with
  | .error e => ⟨c, m.ended, [], .error e⟩
  | .ok inclusions =>
    let read := m.ended.advance 1
    let event : Event :=
      .saturated .inclusions inclusions.size m.course.passes (read.last - m.started.last)
    let rest := saturateRequirements { c with inclusions } read
    ⟨rest.checker, rest.clock, event :: rest.events, rest.outcome.map (⟨m.course.passes, ·⟩)⟩

def isError (c : Checker) (point : Point) : Bool :=
  Solver.isError c.requirements c.inputs.live c.inputs.invalidations point

/-- How the obligation of a region for a loan, which starts at `origin`, meets another point. -/
def sight (c : Checker) (region : Region) (loan : Loan) (origin q : Point) : Sighting :=
  if q = origin ∨ ⟨region, loan, q⟩ ∉ c.requirements then .deadEnd
  else if ⟨region, q⟩ ∈ c.inputs.live then .use
  else if ⟨loan, q⟩ ∈ c.inputs.kills then .deadEnd
  else .passage

/-- The nearest point after `point` where the region is live and requires the loan. -/
def nextUse (c : Checker) (next : Successors) (region : Region) (loan : Loan) (point : Point) :
    Option Point :=
  if ⟨loan, point⟩ ∈ c.inputs.kills then none
  else searchUse (c.sight region loan point) (next.get point) next

/-- The violation of a loan at a point through a region, explained. -/
def explain (c : Checker) (next : Successors) (region : Region) (loan : Loan) (point : Point) :
    Violation :=
  let trace := c.provenance.trace ⟨region, loan, point⟩
  { point, loan, region
    borrowPoint := (trace.getLast?.filter (· ∈ c.inputs.borrows)).map (·.point)
    usagePoint := c.nextUse next region loan point
    chain := (dedupAdjacent (trace.map (·.region))).reverse }

/-- The violations at a point, by loan. `next` are the checker's steps. -/
def violationsAlong (c : Checker) (next : Successors) (point : Point) : List Violation :=
  (c.inputs.loansInvalidatedAt point).filterMap fun loan =>
    (requiringRegion? c.requirements c.inputs.live loan point).map fun region =>
      c.explain next region loan point

/-- The violations at a point, by loan. -/
def violationsAt (c : Checker) (point : Point) : List Violation :=
  c.violationsAlong (Successors.of c.inputs.steps) point

/-- All violations, by point and loan. -/
def violations (c : Checker) : List Violation :=
  let next := Successors.of c.inputs.steps
  c.inputs.invalidationPoints.flatMap (c.violationsAlong next)

end Checker

/-! ## Runs -/

/-- Outcome of a whole run. -/
structure CheckResult where
  violations : List Violation
  inclusions : Relation Inclusion
  requirements : Relation Requirement
  passes : PassCounts

namespace CheckResult

def ok (r : CheckResult) : Bool := r.violations.isEmpty

/-- The points of the violations, ascending. -/
def errorPoints (r : CheckResult) : List Point :=
  (Relation.ofList (r.violations.map (·.point))).toList

end CheckResult

/-- Saturates and reports. The clock is read once more at either end. -/
def Checker.run (c : Checker) (clock : Clock) : Progress CheckResult :=
  let s := c.saturate (clock.advance 1)
  match s.outcome with
  | .error e => ⟨s.checker, s.clock, s.events, .error e⟩
  | .ok passes =>
    let violations := s.checker.violations
    let found := if violations.isEmpty then [] else [.violationsFound violations.length]
    ⟨s.checker, s.clock.advance 1, s.events ++ found,
      .ok ⟨violations, s.checker.inclusions, s.checker.requirements, passes⟩⟩

/-- One run of a fresh checker. -/
def check (inputs : Inputs) (budget : Budget) (clock : Clock) : Progress CheckResult :=
  (Checker.start inputs budget).run clock

end LoanCheck.Solver

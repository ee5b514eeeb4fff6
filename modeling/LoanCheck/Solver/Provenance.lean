import LoanCheck.Solver.Rules

/-!
# Provenance

For every derived requirement, the requirement it was first derived from: the least one, in the relation
as it stood when the pass began, that gives it in one step. A premise is among the facts that the pass
before has added, or else the fact would have been derived earlier. A premise is thus older than what it
gives, and tracing a fact back ends after no more steps than there are entries.
-/

namespace LoanCheck.Solver

/-- Derived requirements and their premises. -/
abbrev Provenance := Std.ExtTreeMap Requirement Requirement compare

namespace Provenance

/-- Records a premise of a fact unless the fact has one already. -/
def record (p : Provenance) (fact premise : Requirement) : Provenance :=
  p.insertIfNew fact premise

/-- Records the premises of the facts that a pass added. -/
def recordRound (p : Provenance) (r : Round Requirement) : Provenance :=
  r.added.foldl (fun p fact premise => p.record fact premise) p

/-- Records the premises of all facts that the passes of a saturation added. -/
def recordRounds (p : Provenance) (rounds : List (Round Requirement)) : Provenance :=
  rounds.foldl recordRound p

/-- The facts that a fact descends from, itself first, over at most `steps` steps. -/
def traceWithin (p : Provenance) (fact : Requirement) : Nat → List Requirement
  | 0 => [fact]
  | steps + 1 =>
    match p[fact]? with
    | some premise => fact :: p.traceWithin premise steps
    | none => [fact]

/-- The facts that a fact descends from, itself first. -/
def trace (p : Provenance) (fact : Requirement) : List Requirement :=
  p.traceWithin fact p.size

end Provenance

end LoanCheck.Solver

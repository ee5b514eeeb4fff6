import LoanCheck.Decimal.Layout
import LoanCheck.Solver.Deduction

/-!
# Budgets

A budget bounds one saturation by a number of passes, by elapsed time, or by neither. Before every pass
the pass limit is looked at first; only if it leaves room, and a time limit is set, the clock is read.
A saturation that overruns its budget ends in `Exhausted`, never in a relation that looks complete.

The clock is a sequence of readings. `Clock.taken` counts the readings used up, so that a later
saturation goes on where an earlier one stopped.
-/

namespace LoanCheck.Solver

/-- Limits of one saturation; an absent limit never stops it. -/
structure Budget where
  maxPasses : Option Int := none
  timeout : Option Float := none

/-- A sequence of clock readings, in seconds, with the number of readings already taken. -/
structure Clock where
  reading : Nat → Float
  taken : Nat

namespace Clock

/-- The clock after some more readings. -/
def advance (c : Clock) (readings : Nat) : Clock :=
  { c with taken := c.taken + readings }

/-- The reading taken last. -/
def last (c : Clock) : Float :=
  c.reading c.taken

end Clock

/-- Why a saturation was stopped. -/
inductive Stop where
  | passLimit (limit : Int)
  | timeLimit (seconds : Float)

def Stop.message : Stop → String
  | .passLimit limit => s!"pass limit {limit} reached"
  | .timeLimit seconds => "time limit " ++ Decimal.general seconds ++ "s exceeded"

namespace Budget

/-- The pass limit forbids another pass after `made` of them. -/
def passStop (b : Budget) (made : Nat) : Option Stop :=
  match b.maxPasses with
  | some limit => if limit ≤ made then some (.passLimit limit) else none
  | none => none

/-- The time limit forbids another pass after `made` of them. The clock has just been read for the
start, and was read once before every pass since. -/
def timeStop (b : Budget) (clock : Clock) (made : Nat) : Option Stop :=
  match b.timeout with
  | some limit =>
    if clock.reading (clock.taken + made + 1) - clock.last > limit then some (.timeLimit limit)
    else none
  | none => none

/-- Whether another pass is allowed after `made` of them. -/
def gate (b : Budget) (clock : Clock) (made : Nat) : Option Stop :=
  (b.passStop made).or (b.timeStop clock made)

/-- Clock readings made by the gate in the course of a saturation. -/
def readings {α : Type} [Ord α] (b : Budget) (course : Course α Stop) : Nat :=
  match b.timeout, course.stop with
  | none, _ => 0
  | some _, none => course.passes
  | some _, some (.timeLimit _) => course.passes + 1
  | some _, some (.passLimit _) => course.passes

end Budget

/-- The two relations that are saturated. -/
inductive Derived where
  | inclusions
  | requirements
deriving DecidableEq, Repr

def Derived.word : Derived → String
  | .inclusions => "subsets"
  | .requirements => "requires"

/-- A saturation overran its budget. -/
structure Exhausted where
  relation : Derived
  passes : Nat
  stop : Stop

def Exhausted.message (e : Exhausted) : String :=
  s!"saturation of '{e.relation.word}' stopped after {e.passes} passes: {e.stop.message}"

/-- A saturation under a budget, and the clock after it. -/
structure Metered (α : Type) [Ord α] where
  course : Course α Stop
  /-- The clock when the saturation started. -/
  started : Clock
  /-- The clock when it ended. -/
  ended : Clock

/-- Runs a saturation under a budget. The clock is read once at the start, and then by the gate. -/
def metered {α : Type} [Ord α] (budget : Budget) (clock : Clock)
    (run : (Nat → Option Stop) → Course α Stop) : Metered α :=
  let started := clock.advance 1
  let course := run (budget.gate started)
  ⟨course, started, started.advance (budget.readings course)⟩

/-- The saturated relation, or the overrun. -/
def Metered.result {α : Type} [Ord α] (m : Metered α) (relation : Derived) (seed : Relation α) :
    Except Exhausted (Relation α) :=
  match m.course.stop with
  | some stop => .error ⟨relation, m.course.passes, stop⟩
  | none => .ok (m.course.last seed)

end LoanCheck.Solver

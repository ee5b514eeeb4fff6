import LoanCheck.Flow.Build
import LoanCheck.Solver.Checker

/-!
# The journal

What a run reports about its own progress. A record has a level, the component that wrote it, and a text;
a journal is a list of records in the order they were written. All records are kept, and the level that
the user asked for only decides which of them are shown.
-/

namespace LoanCheck

/-- How important a record is. -/
inductive Level where
  | debug
  | info
  | warning
  | error
deriving DecidableEq, Repr

namespace Level

def rank : Level → Nat
  | debug => 10
  | info => 20
  | warning => 30
  | error => 40

def word : Level → String
  | debug => "DEBUG"
  | info => "INFO"
  | warning => "WARNING"
  | error => "ERROR"

end Level

/-- Parts of the program that write records. -/
inductive Component where
  | program
  | builder
  | solver
  | facts
  | diagnostics
  | config
  | syntaxTree
  | analysis
deriving DecidableEq, Repr

/-- Name of the component in the journal. -/
def Component.word : Component → String
  | .program => "polite_c"
  | .builder => "polite_c.ctrlflow_graph"
  | .solver => "polite_c.borrowck"
  | .facts => "polite_c.facts"
  | .diagnostics => "polite_c.diagnostics"
  | .config => "polite_c.config"
  | .syntaxTree => "polite_c.frontend"
  | .analysis => "polite_c.driver"

/-- One line of the journal. -/
structure Record where
  level : Level
  component : Component
  text : String
deriving DecidableEq, Repr

abbrev Journal := List Record

/-- An outcome, together with what was written to the journal on the way. -/
structure Noted (ε α : Type) where
  journal : Journal := []
  outcome : Except ε α

/-- The records of a level or above it. -/
def Journal.atLeast (j : Journal) (level : Level) : Journal :=
  j.filter fun r => level.rank ≤ r.level.rank

def Flow.Visit.record (v : Flow.Visit) : Record :=
  ⟨.debug, .builder, "building [" ++ ", ".intercalate v.labels ++ s!"] -> {v.next}"⟩

/-- The records of drawing a function: its visits, and the graph if there is one. -/
def Flow.Drawn.journal (d : Flow.Drawn) : Journal :=
  let built := match d.outcome with
    | .ok g => [⟨.debug, .builder, "built " ++ g.summary⟩]
    | .error _ => []
  d.visits.map (·.record) ++ built

def Solver.Event.record : Solver.Event → Record
  | .saturated relation facts passes elapsed =>
    ⟨.debug, .solver, s!"{relation.word} saturated: {facts} facts, {passes} passes, " ++
      Decimal.fixed3 elapsed ++ "s"⟩
  | .violationsFound count => ⟨.info, .solver, s!"{count} borrow violation(s) found"⟩

end LoanCheck

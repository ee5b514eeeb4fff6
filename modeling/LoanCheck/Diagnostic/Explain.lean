import LoanCheck.Diagnostic.Basic
import LoanCheck.Facts.FactSet

/-!
# Diagnostics of violations

A violation speaks of points, regions and loans by number. The flow graph knows where points are in the
source text, the facts know the spellings; with either missing, the numbers are shown.
-/

namespace LoanCheck

open Solver Facts

/-- What is known beside the violation itself. -/
structure Surroundings where
  graph : Option Flow.Graph := none
  facts : Option FactSet := none
  function : Option String := none

namespace Surroundings

def loanName (s : Surroundings) (l : Loan) : String :=
  match s.facts with
  | some fs => fs.loanName l
  | none => s!"L{l}"

def regionName (s : Surroundings) (r : Region) : String :=
  match s.facts with
  | some fs => fs.regionName r
  | none => s!"R{r}"

def place? (s : Surroundings) (p : Point) : Option SourceSpan :=
  s.graph.bind (·.locationOf p)

/-- The place of a point, or its number. -/
def describe (s : Surroundings) (p : Point) : String :=
  match s.place? p with
  | some l => l.render
  | none => s!"point {p}"

/-- A marker at a point with a known place. -/
def marker? (s : Surroundings) (p : Option Point) (label : String) : Option Marker :=
  (p.bind s.place?).map fun l => ⟨some l, label⟩

end Surroundings

/-- The diagnostic of a violation. -/
def Solver.Violation.diagnostic (v : Violation) (s : Surroundings) : Diagnostic :=
  let name (r : Region) : String := "`" ++ s.regionName r ++ "`"
  { id := "borrowViolation"
    message := "loan `" ++ s.loanName v.loan ++ "` is invalidated while region " ++ name v.region ++
      " still requires it"
    location := s.place? v.point
    notes :=
      (if (s.place? v.point).isNone then [s!"invalidated at point {v.point}"] else []) ++
      (v.borrowPoint.map fun p => "borrowed at " ++ s.describe p).toList ++
      (v.usagePoint.map fun p => "later used at " ++ s.describe p).toList ++
      (if 1 < v.chain.length then
        ["the loan flows through " ++ " -> ".intercalate (v.chain.map name)] else [])
    secondary :=
      (s.marker? v.borrowPoint "borrow created here").toList ++
      (s.marker? v.usagePoint "borrow later used here").toList
    function := s.function }

end LoanCheck

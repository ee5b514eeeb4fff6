import LoanCheck.Flow.Steps
import LoanCheck.Solver.Checker

/-!
# Fact sets

The base relations of one function, with the spellings of its regions and loans. Regions and loans are
numbered by the positions of their names; a number without a name is shown with a letter in front.
-/

namespace LoanCheck.Facts

open Solver

/-- The facts of one function. -/
structure FactSet where
  /-- The function that the facts are about; nothing for an unnamed form. -/
  function : Option String := none
  base : Inputs := {}
  regionNames : List String := []
  loanNames : List String := []
deriving DecidableEq

/-- The name at a position; positions outside of the list have none. -/
def nameAt? (names : List String) (i : Int) : Option String :=
  if i < 0 then none else names[i.toNat]?

namespace FactSet

/-- Spelling of a region. -/
def regionName (fs : FactSet) (r : Region) : String :=
  (nameAt? fs.regionNames r).getD s!"R{r}"

/-- Spelling of a loan. -/
def loanName (fs : FactSet) (l : Loan) : String :=
  (nameAt? fs.loanNames l).getD s!"L{l}"

/-- The relations to check. Facts without any step of their own take the steps of the flow graph. -/
def inputs (fs : FactSet) (graph : Option Flow.Graph) : Inputs :=
  match graph with
  | some g => if fs.base.steps.isEmpty then { fs.base with steps := g.steps } else fs.base
  | none => fs.base

/-- The points that the facts mention and the graph lacks, ascending. -/
def unknownPoints (fs : FactSet) (graph : Flow.Graph) : List Point :=
  let points := Relation.ofList (graph.points.map Int.ofNat)
  fs.base.knownPoints.filter (· ∉ points)

end FactSet

end LoanCheck.Facts

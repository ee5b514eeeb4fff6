import LoanCheck.Flow.Graph
import LoanCheck.Solver.Relation

/-!
# Steps of a flow graph

The graph as the solver sees it: pairs of points. Tags carry no meaning there, and parallel edges are
one step.
-/

namespace LoanCheck.Flow

def Edge.step (e : Edge) : Solver.Step := ⟨e.src, e.dst⟩

/-- The steps between points that the edges allow. -/
def Graph.steps (g : Graph) : Solver.Relation Solver.Step :=
  Solver.Relation.ofList (g.edges.toList.map (·.step))

end LoanCheck.Flow

import LoanCheck.Flow.Graph
import Std.Data.ExtTreeSet.Lemmas

/-!
# Reachability

A walk over a graph with a stack of nodes that wait and a set of nodes that were visited. A node may wait more
than once; it is visited the first time it is taken off the stack, and passed over after that. With every step
either fewer nodes with edges are unvisited, or as many are and fewer nodes wait.
-/

namespace LoanCheck.Flow

/-- The nodes that a walk has visited. -/
abbrev Visited := Std.ExtTreeSet NodeId

theorem Visited.mem_insert_iff {visited : Visited} {n k : NodeId} :
    k ∈ visited.insert n ↔ k = n ∨ k ∈ visited := by
  rw [Std.ExtTreeSet.mem_insert, Std.LawfulEqCmp.compare_eq_iff_eq, eq_comm]

namespace Graph

/-- The nodes with edges that were not visited. -/
def unvisited (g : Graph) (visited : Visited) : List NodeId :=
  g.outgoing.keys.filter (· ∉ visited)

theorem unvisited_insert (g : Graph) (visited : Visited) (n : NodeId) :
    g.unvisited (visited.insert n) = (g.unvisited visited).filter (· ≠ n) := by
  rw [unvisited, unvisited, List.filter_filter]
  refine List.filter_congr fun k _ => ?_
  simp [Visited.mem_insert_iff, -Std.ExtTreeSet.mem_insert]

/-- Visiting a node for the first time leaves fewer nodes with edges unvisited, unless it has none. -/
theorem length_unvisited_insert_lt {g : Graph} {visited : Visited} {n : NodeId} (hn : n ∉ visited)
    (hedges : g.leaving n ≠ []) : (g.unvisited (visited.insert n)).length < (g.unvisited visited).length := by
  have hkey : n ∈ g.outgoing := by
    false_or_by_contra
    next hnone => exact hedges (Std.ExtTreeMap.getD_eq_fallback hnone)
  rw [unvisited_insert, List.length_filter_lt_length_iff_exists]
  exact ⟨n, List.mem_filter.2 ⟨Std.ExtTreeMap.mem_keys.2 hkey, by simpa using hn⟩, by simp⟩

/-- The nodes visited once no node of the worklist waits any more. The last successor of a node is visited first. -/
def visit (g : Graph) (worklist : List NodeId) (visited : Visited) : Visited :=
  match worklist with
  | [] => visited
  | n :: rest =>
    if _h : n ∈ visited then g.visit rest visited
    else g.visit ((g.successors n).reverse ++ rest) (visited.insert n)
termination_by ((g.unvisited visited).length, worklist.length)
decreasing_by
  · exact Prod.Lex.right _ (by simp)
  · by_cases hedges : g.leaving n = []
    · -- a node without edges was waiting, and nothing waits in its place
      have hlength : (g.unvisited (visited.insert n)).length ≤ (g.unvisited visited).length := by
        rw [unvisited_insert]
        exact List.length_filter_le _ _
      rw [successors, hedges]
      rcases Nat.lt_or_eq_of_le hlength with hlt | heq
      · exact Prod.Lex.left _ _ hlt
      · rw [heq]
        exact Prod.Lex.right _ (by simp)
    · exact Prod.Lex.left _ _ (length_unvisited_insert_lt _h hedges)

/-- The nodes that can be reached from a node by zero or more edges, ascending. -/
def reachableFrom (g : Graph) (n : NodeId) : List NodeId :=
  (g.visit [n] ∅).toList

end Graph

end LoanCheck.Flow

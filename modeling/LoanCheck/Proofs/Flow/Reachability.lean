import LoanCheck.Flow.Reach
import LoanCheck.Proofs.Flow.Exits

/-!
# Graphs made by hand

A graph need not be drawn from statements : nodes and edges can be added one at a time, in any order, with cycles and
with many edges between the same nodes. `Graph.Made` says which calls a graph was made by.

The edges at a node are those that were added there, in the order of the calls, and the walk from a node visits what
can be reached from it along the edges, however many times it comes upon the same node
(`Made.leaving_entering_reachableFrom`). Every call keeps up that the lists at the nodes have the edges of the graph
(`Made.linked`). Every step of the walk keeps up that the edges of visited nodes lead to nodes that were visited or
that wait (`Explores`), so once none waits, no edge leads out of the visited nodes.
-/

namespace LoanCheck.Flow

open Relation (ReflTransGen)

/-! ## Calls -/

/-- A call that extends a graph. -/
inductive Call where
  | node (kind : NodeKind) (description : String) (location : Option SourceSpan)
  | edge (edge : Edge)

/-- The edge that a call adds. -/
def Call.edge? : Call → Option Edge
  | node .. => none
  | edge e => some e

/-- The graph comes from the two synthetic points by some calls, first one first. Edges join nodes that are there when
they are added. -/
inductive Graph.Made (name : Option String) : List Call → Graph → Prop where
  | empty : Made name [] (Graph.empty name)
  | node {calls g kind description location} : Made name calls g →
      Made name (calls ++ [.node kind description location]) (g.addNode kind description location).2
  | edge {calls g src dst branch} : Made name calls g → src ∈ g.points → dst ∈ g.points →
      Made name (calls ++ [.edge ⟨src, dst, branch⟩]) (g.addEdge src dst branch)

namespace Graph

theorem points_addNode (g : Graph) (kind : NodeKind) (description : String) (location : Option SourceSpan) :
    (g.addNode kind description location).2.points = g.points ++ [g.nodes.size] := by
  simp [points, addNode]

namespace Made

variable {name : Option String} {calls : List Call} {g : Graph}

theorem edges_eq (h : Made name calls g) : g.edges.toList = calls.filterMap Call.edge? := by
  induction h with
  | empty => rfl
  | node _ ih =>
    rw [List.filterMap_append, ← ih]
    simp [addNode, Call.edge?]
  | edge _ _ _ ih =>
    rw [List.filterMap_append, ← ih]
    simp [addEdge, Call.edge?]

theorem linked (h : Made name calls g) : g.Linked := by
  induction h with
  | empty => exact linked_empty name
  | node _ ih => exact ih.addNode ..
  | edge _ _ _ ih => exact ih.addEdge ..

/-- Edges lead to nodes of the graph. -/
theorem dst_mem_points (h : Made name calls g) : ∀ e ∈ g.edges, e.dst ∈ g.points := by
  induction h with
  | empty => simp [Graph.empty]
  | node _ ih =>
    intro e he
    rw [points_addNode]
    exact List.mem_append_left _ (ih e he)
  | edge _ _ hdst ih =>
    intro e he
    rcases mem_edges_addEdge.1 he with he | rfl
    · exact ih e he
    · exact hdst

/-- What can be reached from a node is a node. -/
theorem mem_points_of_reflTransGen (h : Made name calls g) {n m : NodeId} (hn : n ∈ g.points)
    (hpath : ReflTransGen g.Joins n m) : m ∈ g.points := by
  induction hpath with
  | refl => exact hn
  | tail _ hjoin _ =>
    obtain ⟨e, he, _, rfl⟩ := hjoin
    exact h.dst_mem_points e he

end Made

/-! ## The walk -/

/-- What a walk keeps up: it comes to nodes that can be reached from its origin, and what an edge of a visited node
leads to was visited or waits. -/
structure Explores (g : Graph) (origin : NodeId) (worklist : List NodeId) (visited : Visited) : Prop where
  origin_mem : origin ∈ visited ∨ origin ∈ worklist
  reached : ∀ k, k ∈ visited ∨ k ∈ worklist → ReflTransGen g.Joins origin k
  closed : ∀ k m, k ∈ visited → g.Joins k m → m ∈ visited ∨ m ∈ worklist

variable {g : Graph} {origin n : NodeId} {worklist rest : List NodeId} {visited : Visited}

theorem Linked.mem_successors_iff (hg : g.Linked) {m : NodeId} : m ∈ g.successors n ↔ g.Joins n m := by
  simp only [successors, List.mem_map, hg.mem_leaving, Joins, and_assoc]

namespace Explores

theorem initial : g.Explores n [n] ∅ where
  origin_mem := .inr List.mem_cons_self
  reached k hk := by
    rcases hk with hk | hk
    · exact absurd hk Std.ExtTreeSet.not_mem_empty
    · rw [List.mem_singleton.1 hk]
  closed k m hk _ := absurd hk Std.ExtTreeSet.not_mem_empty

/-- A node that was visited need not wait any more. -/
theorem skip (h : g.Explores origin (n :: rest) visited) (hn : n ∈ visited) : g.Explores origin rest visited := by
  have hwaits {k : NodeId} : k ∈ visited ∨ k ∈ n :: rest → k ∈ visited ∨ k ∈ rest := by
    rintro (hk | hk)
    · exact .inl hk
    · rcases List.mem_cons.1 hk with rfl | hk
      · exact .inl hn
      · exact .inr hk
  exact ⟨hwaits h.origin_mem, fun k hk => h.reached k (hk.imp_right (List.mem_cons_of_mem n)),
    fun k m hk hjoin => hwaits (h.closed k m hk hjoin)⟩

/-- Once a node is visited, its successors wait in its place. -/
theorem insert (h : g.Explores origin (n :: rest) visited) (hg : g.Linked) :
    g.Explores origin ((g.successors n).reverse ++ rest) (visited.insert n) := by
  have hwaits {k : NodeId} : k ∈ visited ∨ k ∈ n :: rest →
      k ∈ visited.insert n ∨ k ∈ (g.successors n).reverse ++ rest := by
    rw [Visited.mem_insert_iff, List.mem_cons, List.mem_append]
    rintro (hk | rfl | hk)
    · exact .inl (.inr hk)
    · exact .inl (.inl rfl)
    · exact .inr (.inr hk)
  refine ⟨hwaits h.origin_mem, fun k hk => ?_, fun k m hk hjoin => ?_⟩
  · have hn : ReflTransGen g.Joins origin n := h.reached n (.inr List.mem_cons_self)
    rw [Visited.mem_insert_iff, List.mem_append, List.mem_reverse, hg.mem_successors_iff] at hk
    rcases hk with (rfl | hk) | hjoin | hk
    · exact hn
    · exact h.reached k (.inl hk)
    · exact hn.tail hjoin
    · exact h.reached k (.inr (List.mem_cons_of_mem n hk))
  · -- only the new node has edges that the invariant said nothing about
    rcases Visited.mem_insert_iff.1 hk with rfl | hk
    · exact .inr (List.mem_append_left _ (List.mem_reverse.2 (hg.mem_successors_iff.2 hjoin)))
    · exact hwaits (h.closed k m hk hjoin)

theorem visit (h : g.Explores origin worklist visited) (hg : g.Linked) :
    g.Explores origin [] (g.visit worklist visited) := by
  -- over the steps of the walk: the node in front was visited before, or is now
  fun_induction Graph.visit g worklist visited with
  | case1 => exact h
  | case2 visited n rest hn ih => exact ih (h.skip hn)
  | case3 visited n rest hn ih => exact ih (h.insert hg)

/-- A walk that is over has visited what can be reached. -/
theorem mem_iff (h : g.Explores origin [] visited) {m : NodeId} :
    m ∈ visited ↔ ReflTransGen g.Joins origin m := by
  refine ⟨fun hm => h.reached m (.inl hm), fun hpath => ?_⟩
  induction hpath with
  | refl => exact h.origin_mem.resolve_right List.not_mem_nil
  | tail _ hjoin ih => exact (h.closed _ _ ih hjoin).resolve_right List.not_mem_nil

end Explores

theorem Linked.mem_reachableFrom_iff (hg : g.Linked) {m : NodeId} :
    m ∈ g.reachableFrom n ↔ ReflTransGen g.Joins n m := by
  rw [reachableFrom, Std.ExtTreeSet.mem_toList, (Explores.initial.visit hg).mem_iff]

theorem pairwise_reachableFrom (g : Graph) (n : NodeId) : (g.reachableFrom n).Pairwise (· < ·) :=
  Std.ExtTreeSet.ordered_toList.imp Nat.compare_eq_lt.1

/-- In a graph made by any calls, the edges that leave or enter a node are those that were added with it as their
source or target, in the order of the calls, and the nodes found from a node are those that can be reached from it by
zero or more edges, each listed once, and are nodes of the graph. -/
theorem Made.leaving_entering_reachableFrom {name : Option String} {calls : List Call} {g : Graph}
    (h : Made name calls g) {n : NodeId} (hn : n ∈ g.points) :
    let added := calls.filterMap Call.edge?
    g.edges.toList = added ∧
      (g.leaving n = added.filter (·.src = n) ∧ g.successors n = (added.filter (·.src = n)).map (·.dst)) ∧
      (g.entering n = added.filter (·.dst = n) ∧ g.predecessors n = (added.filter (·.dst = n)).map (·.src)) ∧
      (g.reachableFrom n).Pairwise (· < ·) ∧ (∀ m, m ∈ g.reachableFrom n ↔ ReflTransGen g.Joins n m) ∧
      ∀ m ∈ g.reachableFrom n, m ∈ g.points := by
  intro added
  have hleaving : g.leaving n = added.filter (·.src = n) := by rw [h.linked.leaving_eq, h.edges_eq]
  have hentering : g.entering n = added.filter (·.dst = n) := by rw [h.linked.entering_eq, h.edges_eq]
  have hreach (m : NodeId) : m ∈ g.reachableFrom n ↔ ReflTransGen g.Joins n m := h.linked.mem_reachableFrom_iff
  refine ⟨h.edges_eq, ⟨hleaving, ?_⟩, ⟨hentering, ?_⟩, g.pairwise_reachableFrom n, hreach, fun m hm => ?_⟩
  · rw [successors, hleaving]
  · rw [predecessors, hentering]
  · exact h.mem_points_of_reflTransGen hn ((hreach m).1 hm)

/-- Point 2 has an edge to itself and two edges to point 3, which leads back to it. Point 4 was added last, leads to
point 3 and is reached from nowhere. -/
theorem Made.leaving_entering_reachableFrom_cycle :
    let calls : List Call := [.node .conditionalGoto "" none, .edge ⟨0, 2, .sequential⟩, .edge ⟨2, 2, .whenTrue⟩,
      .node .statement "x" none, .edge ⟨2, 3, .whenTrue⟩, .edge ⟨3, 2, .sequential⟩, .edge ⟨2, 3, .whenFalse⟩,
      .node .statement "y" none, .edge ⟨4, 3, .sequential⟩]
    ∃ g, Made none calls g ∧ 2 ∈ g.points ∧ g.successors 2 = [2, 3, 3] ∧ g.predecessors 2 = [0, 2, 3] ∧
      3 ∈ g.reachableFrom 2 ∧ 4 ∉ g.reachableFrom 2 := by
  intro calls
  have hmade : ∃ g, Made none calls g ∧ 2 ∈ g.points :=
    ⟨_, .edge (.node (.edge (.edge (.edge (.node (.edge (.edge (.node .empty) (by decide) (by decide)) (by decide)
      (by decide))) (by decide) (by decide)) (by decide) (by decide)) (by decide) (by decide))) (by decide) (by decide),
      by decide⟩
  obtain ⟨g, hg, hpoint⟩ := hmade
  obtain ⟨hedges, ⟨_, hsuccessors⟩, ⟨_, hpredecessors⟩, _, hreach, _⟩ :=
    Made.leaving_entering_reachableFrom hg hpoint
  have hmem (e : Edge) : e ∈ g.edges ↔ e ∈ calls.filterMap Call.edge? := by rw [← hedges, Array.mem_toList_iff]
  refine ⟨g, hg, hpoint, hsuccessors, hpredecessors, (hreach 3).2 (.single ?_), fun h => ?_⟩
  · exact ⟨⟨2, 3, .whenTrue⟩, (hmem _).2 (by decide), rfl, rfl⟩
  · -- no edge leads to point 4
    rcases ((hreach 4).1 h).cases_tail with heq | ⟨k, _, e, he, _, hdst⟩
    · cases heq
    · exact absurd hdst ((by decide : ∀ e ∈ calls.filterMap Call.edge?, e.dst ≠ 4) e ((hmem e).1 he))

end Graph

end LoanCheck.Flow

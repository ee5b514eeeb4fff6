import LoanCheck.Proofs.Flow.Simulation

/-!
# The shape of drawn graphs

The kind of a node says which edges leave it (`Node.Leaves`). While a body is drawn this fails at the loops and
conditions around it, as their edges come last; but those points are older than the body. `Draws.drawnAt` says
that every point a statement adds has its edges once that statement is drawn, and the points that were open
before stay as they were (`Draws.graph_extends`).

Edges lead to targets and to new points only (`Draws.dst_reaches`), so none leads back to the start, and each
node brings as many edges as its kind calls for (`Draws.size_edges`). `wellShaped_ofStatements` puts this
together for a function.
-/

namespace LoanCheck.Flow

open Flow.Graph (Extends Bounded)

/-! ## Points with all their edges -/

/-- The edges that leave a node are those that its kind calls for, in their order. -/
def Node.Leaves (n : Node) (edges : List Edge) : Prop :=
  match n.kind with
  | .start | .statement => ∃ next, edges = [⟨n.id, next, .sequential⟩]
  | .conditionalGoto => ∃ entry next, edges = [⟨n.id, entry, .whenTrue⟩, ⟨n.id, next, .whenFalse⟩]
  | .ret | .implicitReturn => edges = []

namespace Graph

/-- The point has a node under its own number, which is none of the two synthetic ones, and all edges that the
node calls for. -/
structure DrawnAt (g : Graph) (k : NodeId) (n : Node) : Prop where
  node : g.nodes[k]? = some n
  id : n.id = k
  not_start : n.kind ≠ .start
  not_implicitReturn : n.kind ≠ .implicitReturn
  leaves : n.Leaves (g.leaving k)

variable {g g' : Graph} {k : NodeId} {n : Node}

theorem DrawnAt.lt_size (h : g.DrawnAt k n) : k < g.nodes.size :=
  (Array.getElem?_eq_some_iff.1 h.node).1

theorem DrawnAt.of_extends (h : g.DrawnAt k n) (hext : g.Extends g') : g'.DrawnAt k n where
  node := (hext.node k h.lt_size).trans h.node
  id := h.id
  not_start := h.not_start
  not_implicitReturn := h.not_implicitReturn
  leaves := by
    rw [hext.leaving k h.lt_size]
    exact h.leaves

/-- An edge from another point changes nothing here. -/
theorem DrawnAt.addEdge (h : g.DrawnAt k n) {src : NodeId} (hsrc : src ≠ k) (dst : NodeId)
    (branch : Branch) : (g.addEdge src dst branch).DrawnAt k n where
  node := h.node
  id := h.id
  not_start := h.not_start
  not_implicitReturn := h.not_implicitReturn
  leaves := by
    rw [leaving_addEdge, if_neg hsrc]
    exact h.leaves

/-- A condition has its edges once its body is drawn. -/
theorem drawnAt_choice {d : String} {l : Option SourceSpan} (hg : g.Bounded)
    (hext : Extends (g.addNode .conditionalGoto d l).2 g') (entry next : NodeId) :
    ((g'.addEdge g.nodes.size entry .whenTrue).addEdge g.nodes.size next .whenFalse).DrawnAt
      g.nodes.size ⟨g.nodes.size, .conditionalGoto, d, l⟩ := by
  obtain ⟨hnode, hleaving⟩ := hext.new_node hg
  refine ⟨hnode, rfl, nofun, nofun, entry, next, ?_⟩
  simp [leaving_addEdge, hleaving]

/-- The three points of a counted loop have their edges once its body is drawn. -/
theorem drawnAt_counted {k : Nat} {i p c : String} {li lp lc : Option SourceSpan} (hg : g.Bounded)
    (hext : Extends (((g.addNode .statement i li).2.addNode .statement p lp).2.addNode
      .conditionalGoto c lc).2 g') (entry next : NodeId) (hk : g.nodes.size ≤ k)
    (hlt : k < g.nodes.size + 3) :
    ∃ n, ((((g'.addEdge (g.nodes.size + 1) (g.nodes.size + 2) .sequential).addEdge g.nodes.size
      (g.nodes.size + 2) .sequential).addEdge (g.nodes.size + 2) entry .whenTrue).addEdge
        (g.nodes.size + 2) next .whenFalse).DrawnAt k n := by
  obtain ⟨⟨hfirst, hfirst'⟩, ⟨hafter, hafter'⟩, hchoice, hchoice'⟩ := hext.new_counted hg
  obtain rfl | rfl | rfl : k = g.nodes.size ∨ k = g.nodes.size + 1 ∨ k = g.nodes.size + 2 := by omega
  · refine ⟨_, hfirst, rfl, nofun, nofun, g.nodes.size + 2, ?_⟩
    simp [leaving_addEdge, hfirst']
  · refine ⟨_, hafter, rfl, nofun, nofun, g.nodes.size + 2, ?_⟩
    simp [leaving_addEdge, hafter']
  · refine ⟨_, hchoice, rfl, nofun, nofun, entry, next, ?_⟩
    simp [leaving_addEdge, hchoice']

end Graph

mutual

/-- Every point that a statement adds has all its edges once the statement is drawn. -/
theorem Draws.drawnAt {s : Statement} {t : Targets} {g g' : Graph} {e : NodeId} :
    Draws s t g e g' → g.Bounded → ∀ k, g.nodes.size ≤ k → k < g'.nodes.size →
      ∃ n, g'.DrawnAt k n
  | .ret, hg, k, hk, hlt => by
    rw [Graph.size_addNode] at hlt
    obtain rfl : k = g.nodes.size := by omega
    obtain ⟨hnode, hleaving⟩ := (Extends.refl _).new_node hg
    exact ⟨_, hnode, rfl, nofun, nofun, hleaving⟩
  | .breakOut _, _, k, hk, hlt => absurd hlt (Nat.not_lt.2 hk)
  | .continueLoop _, _, k, hk, hlt => absurd hlt (Nat.not_lt.2 hk)
  | .other, hg, k, hk, hlt => by
    rw [Graph.nodes_addEdge, Graph.size_addNode] at hlt
    obtain rfl : k = g.nodes.size := by omega
    obtain ⟨hnode, hleaving⟩ := (Extends.refl _).new_node hg
    refine ⟨_, hnode, rfl, nofun, nofun, t.next, ?_⟩
    rw [Graph.leaving_addEdge, if_pos rfl, hleaving]
    rfl
  | .cond hbody, hg, k, hk, hlt => by
    rcases Nat.eq_or_lt_of_le hk with rfl | hk
    · exact ⟨_, Graph.drawnAt_choice hg hbody.graph_extends _ _⟩
    · obtain ⟨n, hn⟩ := hbody.drawnAt (hg.addNode _ _ _) k (by rwa [Graph.size_addNode]) hlt
      exact ⟨n, (hn.addEdge (Nat.ne_of_lt hk) _ _).addEdge (Nat.ne_of_lt hk) _ _⟩
  | .whileLoop hbody, hg, k, hk, hlt => by
    rcases Nat.eq_or_lt_of_le hk with rfl | hk
    · exact ⟨_, Graph.drawnAt_choice hg hbody.graph_extends _ _⟩
    · obtain ⟨n, hn⟩ := hbody.drawnAt (hg.addNode _ _ _) k (by rwa [Graph.size_addNode]) hlt
      exact ⟨n, (hn.addEdge (Nat.ne_of_lt hk) _ _).addEdge (Nat.ne_of_lt hk) _ _⟩
  | .forLoop hbody, hg, k, hk, hlt => by
    rcases Nat.lt_or_ge k (g.nodes.size + 3) with hclause | hnew
    · exact Graph.drawnAt_counted hg hbody.graph_extends _ _ hk hclause
    · obtain ⟨n, hn⟩ := hbody.drawnAt (((hg.addNode _ _ _).addNode _ _ _).addNode _ _ _) k
        (by simpa only [Graph.size_addNode] using hnew) hlt
      refine ⟨n, (((hn.addEdge ?_ _ _).addEdge ?_ _ _).addEdge ?_ _ _).addEdge ?_ _ _⟩
      all_goals exact Nat.ne_of_lt (by omega)
  | .compound _ hall, hg, k, hk, hlt => hall.drawnAt hg k hk hlt

theorem DrawsAll.drawnAt {ss : List Statement} {t : Targets} {g g' : Graph} {e : NodeId} :
    DrawsAll ss t g e g' → g.Bounded → ∀ k, g.nodes.size ≤ k → k < g'.nodes.size →
      ∃ n, g'.DrawnAt k n
  | .nil, _, k, hk, hlt => absurd hlt (Nat.not_lt.2 hk)
  | @DrawsAll.cons _ _ _ _ _ g₁ _ _ hall hs, hg, k, hk, hlt => by
    rcases Nat.lt_or_ge k g₁.nodes.size with hold | hnew
    · obtain ⟨n, hn⟩ := hall.drawnAt hg k hk hold
      exact ⟨n, hn.of_extends hs.graph_extends⟩
    · exact hs.drawnAt (hall.bounded hg) k hnew hlt

end

/-! ## Where edges lead -/

/-- The targets have the point. -/
def Targets.Has (t : Targets) (k : NodeId) : Prop :=
  k = t.next ∨ t.breakTo = some k ∨ t.continueTo = some k

/-- The point is a target, or it is in the second graph and not yet in the first. -/
def Targets.Reaches (t : Targets) (g g' : Graph) (k : NodeId) : Prop :=
  t.Has k ∨ g.nodes.size ≤ k ∧ k < g'.nodes.size

namespace Targets

variable {t t' : Targets} {g g₁ g₁' g' : Graph} {k : NodeId}

theorem reaches_next : t.Reaches g g' t.next :=
  .inl (.inl rfl)

/-- What a part reaches the whole reaches, if it reaches the targets of the part. -/
theorem Reaches.of_part (h : t'.Reaches g₁ g₁' k) (ht : ∀ j, t'.Has j → t.Reaches g g' j)
    (hle : g.nodes.size ≤ g₁.nodes.size) (hle' : g₁'.nodes.size ≤ g'.nodes.size) :
    t.Reaches g g' k := by
  rcases h with h | ⟨hk, hlt⟩
  · exact ht k h
  · exact .inr ⟨Nat.le_trans hle hk, Nat.lt_of_lt_of_le hlt hle'⟩

theorem Reaches.of_addNode {kind : NodeKind} {d : String} {l : Option SourceSpan}
    (h : t.Reaches (g.addNode kind d l).2 g' k) : t.Reaches g g' k :=
  h.of_part (fun _ hj => .inl hj) (by simp) (Nat.le_refl _)

/-- What the body of a loop reaches the loop reaches: its targets are the point after the loop and a point of
the loop itself. -/
theorem Reaches.of_loop {after : NodeId} (h : Reaches ⟨after, some t.next, some after⟩ g₁ g' k)
    (hle : g.nodes.size ≤ g₁.nodes.size) (hafter : g.nodes.size ≤ after)
    (hlt : after < g'.nodes.size) : t.Reaches g g' k := by
  have hback : t.Reaches g g' after := .inr ⟨hafter, hlt⟩
  refine h.of_part (fun j hj => ?_) hle (Nat.le_refl _)
  rcases hj with rfl | hj | hj
  · exact hback
  · cases hj
    exact reaches_next
  · cases hj
    exact hback

end Targets

namespace Graph

theorem mem_edges_addEdge {g : Graph} {src dst : NodeId} {branch : Branch} {e : Edge} :
    e ∈ (g.addEdge src dst branch).edges ↔ e ∈ g.edges ∨ e = ⟨src, dst, branch⟩ := by
  simp [addEdge]

end Graph

mutual

theorem Draws.entry_reaches {s : Statement} {t : Targets} {g g' : Graph} {e : NodeId} :
    Draws s t g e g' → t.Reaches g g' e
  | .ret => .inr ⟨Nat.le_refl _, by simp⟩
  | .breakOut ht => .inl (.inr (.inl ht))
  | .continueLoop ht => .inl (.inr (.inr ht))
  | .other => .inr ⟨Nat.le_refl _, by simp⟩
  | .cond h => by
    have hsize := h.graph_extends.size
    rw [Graph.size_addNode] at hsize
    exact .inr ⟨Nat.le_refl _, hsize⟩
  | .whileLoop h => by
    have hsize := h.graph_extends.size
    rw [Graph.size_addNode] at hsize
    exact .inr ⟨Nat.le_refl _, hsize⟩
  | .forLoop h => by
    have hsize := h.graph_extends.size
    simp only [Graph.size_addNode] at hsize
    exact .inr ⟨Nat.le_refl _, Nat.lt_of_lt_of_le (by omega) hsize⟩
  | .compound _ h => h.entry_reaches

theorem DrawsAll.entry_reaches {ss : List Statement} {t : Targets} {g g' : Graph} {e : NodeId} :
    DrawsAll ss t g e g' → t.Reaches g g' e
  | .nil => Targets.reaches_next
  | .cons hall hs => by
    have hnext := hall.entry_reaches
    refine hs.entry_reaches.of_part ?_ hall.graph_extends.size (Nat.le_refl _)
    rintro j (rfl | hj)
    · exact hnext.of_part (fun j hj => .inl hj) (Nat.le_refl _) hs.graph_extends.size
    · exact .inl (.inr hj)

end

mutual

/-- An edge that a statement adds leads to one of its targets or to one of its own points. -/
theorem Draws.dst_reaches {s : Statement} {t : Targets} {g g' : Graph} {e : NodeId} :
    Draws s t g e g' → ∀ f ∈ g'.edges, f ∈ g.edges ∨ t.Reaches g g' f.dst
  | .ret, f, hf => .inl hf
  | .breakOut _, f, hf => .inl hf
  | .continueLoop _, f, hf => .inl hf
  | .other, f, hf => by
    rcases Graph.mem_edges_addEdge.1 hf with hf | rfl
    · exact .inl hf
    · exact .inr Targets.reaches_next
  | .cond h, f, hf => by
    simp only [Graph.mem_edges_addEdge, or_assoc] at hf
    rcases hf with hf | rfl | rfl
    · exact (h.dst_reaches f hf).imp id fun hf => hf.of_addNode
    · exact .inr h.entry_reaches.of_addNode
    · exact .inr Targets.reaches_next
  | .whileLoop h, f, hf => by
    have hsize := h.graph_extends.size
    rw [Graph.size_addNode] at hsize
    simp only [Graph.mem_edges_addEdge, or_assoc] at hf
    rcases hf with hf | rfl | rfl
    · exact (h.dst_reaches f hf).imp id fun hf => hf.of_loop (by simp) (Nat.le_refl _) hsize
    · exact .inr (h.entry_reaches.of_loop (by simp) (Nat.le_refl _) hsize)
    · exact .inr Targets.reaches_next
  | .forLoop h, f, hf => by
    have hsize := h.graph_extends.size
    simp only [Graph.size_addNode] at hsize
    have hlt : g.nodes.size + 1 < _ := Nat.lt_of_lt_of_le (by omega) hsize
    simp only [Graph.mem_edges_addEdge, or_assoc] at hf
    rcases hf with hf | rfl | rfl | rfl | rfl
    · exact (h.dst_reaches f hf).imp id fun hf =>
        hf.of_loop (by simp only [Graph.size_addNode]; omega) (Nat.le_add_right _ _) hlt
    · exact .inr (.inr ⟨Nat.le_add_right _ _, hsize⟩)
    · exact .inr (.inr ⟨Nat.le_add_right _ _, hsize⟩)
    · exact .inr (h.entry_reaches.of_loop (by simp only [Graph.size_addNode]; omega)
        (Nat.le_add_right _ _) hlt)
    · exact .inr Targets.reaches_next
  | .compound _ h, f, hf => h.dst_reaches f hf

theorem DrawsAll.dst_reaches {ss : List Statement} {t : Targets} {g g' : Graph} {e : NodeId} :
    DrawsAll ss t g e g' → ∀ f ∈ g'.edges, f ∈ g.edges ∨ t.Reaches g g' f.dst
  | .nil, f, hf => .inl hf
  | @DrawsAll.cons _ _ _ _ _ g₁ _ _ hall hs, f, hf => by
    have hwiden {k} (hk : t.Reaches g g₁ k) : t.Reaches g g' k :=
      hk.of_part (fun j hj => .inl hj) (Nat.le_refl _) hs.graph_extends.size
    rcases hs.dst_reaches f hf with hf | hf
    · exact (hall.dst_reaches f hf).imp id hwiden
    · refine .inr (hf.of_part ?_ hall.graph_extends.size (Nat.le_refl _))
      rintro j (rfl | hj)
      · exact hwiden hall.entry_reaches
      · exact .inl (.inr hj)

end

/-! ## How many edges there are -/

namespace Graph

/-- The number of edges that the statements and conditions of a graph call for. -/
def dueEdges (g : Graph) : Nat :=
  (g.nodesOfKind .statement).length + 2 * (g.nodesOfKind .conditionalGoto).length

theorem length_nodesOfKind_addNode (g : Graph) (kind kind' : NodeKind) (d : String)
    (l : Option SourceSpan) : ((g.addNode kind d l).2.nodesOfKind kind').length =
      (g.nodesOfKind kind').length + if kind = kind' then 1 else 0 := by
  by_cases h : kind = kind' <;> simp [nodesOfKind, addNode, h]

@[simp] theorem dueEdges_addNode (g : Graph) (kind : NodeKind) (d : String) (l : Option SourceSpan) :
    (g.addNode kind d l).2.dueEdges = g.dueEdges +
      ((if kind = .statement then 1 else 0) + 2 * if kind = .conditionalGoto then 1 else 0) := by
  simp only [dueEdges, length_nodesOfKind_addNode]
  omega

@[simp] theorem dueEdges_addEdge (g : Graph) (src dst : NodeId) (branch : Branch) :
    (g.addEdge src dst branch).dueEdges = g.dueEdges :=
  rfl

@[simp] theorem size_edges_addNode (g : Graph) (kind : NodeKind) (d : String)
    (l : Option SourceSpan) : (g.addNode kind d l).2.edges.size = g.edges.size :=
  rfl

@[simp] theorem size_edges_addEdge (g : Graph) (src dst : NodeId) (branch : Branch) :
    (g.addEdge src dst branch).edges.size = g.edges.size + 1 := by
  simp [addEdge]

end Graph

mutual

/-- Drawing adds the edges that the new nodes call for. -/
theorem Draws.size_edges {s : Statement} {t : Targets} {g g' : Graph} {e : NodeId} :
    Draws s t g e g' → g'.edges.size + g.dueEdges = g.edges.size + g'.dueEdges
  | .ret => by simp
  | .breakOut _ => rfl
  | .continueLoop _ => rfl
  | .other => by
    simp
    omega
  | .cond h => by
    have hbody := h.size_edges
    simp at hbody ⊢
    omega
  | .whileLoop h => by
    have hbody := h.size_edges
    simp at hbody ⊢
    omega
  | .forLoop h => by
    have hbody := h.size_edges
    simp at hbody ⊢
    omega
  | .compound _ h => h.size_edges

theorem DrawsAll.size_edges {ss : List Statement} {t : Targets} {g g' : Graph} {e : NodeId} :
    DrawsAll ss t g e g' → g'.edges.size + g.dueEdges = g.edges.size + g'.dueEdges
  | .nil => rfl
  | .cons hall hs => by
    have hrest := hall.size_edges
    have hfirst := hs.size_edges
    omega

end

/-! ## Functions -/

/-- What the flow graph of a function looks like. -/
structure Graph.WellShaped (g : Graph) : Prop where
  /-- Nodes are numbered from 0 in their order. -/
  points_eq : g.points = List.range g.nodes.size
  /-- Both synthetic points are there. -/
  two_le_size : 2 ≤ g.nodes.size
  start_iff : ∀ n ∈ g.nodes, n.kind = .start ↔ n.id = Graph.start
  implicitReturn_iff : ∀ n ∈ g.nodes, n.kind = .implicitReturn ↔ n.id = Graph.implicitReturn
  /-- The lists at the nodes have the edges of the graph. -/
  linked : g.Linked
  /-- The edges that leave a node are those that its kind calls for. -/
  leaves : ∀ n ∈ g.nodes, n.Leaves (g.leaving n.id)
  entering_start : g.entering Graph.start = []
  ends : ∀ e ∈ g.edges, e.src ∈ g.points ∧ e.dst ∈ g.points
  size_edges : g.edges.size =
    1 + (g.nodesOfKind .statement).length + 2 * (g.nodesOfKind .conditionalGoto).length

theorem Graph.Bounded.src_lt {g : Graph} (hg : g.Bounded) (hlinked : g.Linked) {e : Edge} (he : e ∈ g.edges) :
    e.src < g.nodes.size := by
  refine Nat.lt_of_not_le fun hle => ?_
  have hmem : e ∈ g.leaving e.src := hlinked.mem_leaving.2 ⟨he, rfl⟩
  rw [hg e.src hle] at hmem
  cases hmem

section Function

variable {ss : List Statement} {name : Option String} {entry : NodeId} {g : Graph}

/-- The nodes of a function, once the start is joined to its entry. -/
theorem DrawsAll.shape_of_node (h : DrawsAll ss .ofFunction (Graph.empty name) entry g) :
    ∀ {k : Nat} {n : Node}, g.nodes[k]? = some n →
      n.id = k ∧ (n.kind = .start ↔ k = Graph.start) ∧
        (n.kind = .implicitReturn ↔ k = Graph.implicitReturn) ∧
        n.Leaves ((g.addEdge Graph.start entry .sequential).leaving k)
  | 0, n, hn => by
    have hnode : g.nodes[0]? = some ⟨Graph.start, .start, "", none⟩ :=
      h.graph_extends.node 0 Nat.zero_lt_two
    obtain rfl := Option.some.inj (hn.symm.trans hnode)
    refine ⟨rfl, by simp [Graph.start], by simp [Graph.implicitReturn], entry, ?_⟩
    rw [Graph.leaving_addEdge, if_pos (by rfl), h.graph_extends.leaving 0 Nat.zero_lt_two]
    rfl
  | 1, n, hn => by
    have hnode : g.nodes[1]? = some ⟨Graph.implicitReturn, .implicitReturn, "", none⟩ :=
      h.graph_extends.node 1 Nat.one_lt_two
    obtain rfl := Option.some.inj (hn.symm.trans hnode)
    refine ⟨rfl, by simp [Graph.start], by simp [Graph.implicitReturn], ?_⟩
    rw [Graph.leaving_addEdge, if_neg (by decide), h.graph_extends.leaving 1 Nat.one_lt_two]
    rfl
  | k + 2, n, hn => by
    have hlt := (Array.getElem?_eq_some_iff.1 hn).1
    obtain ⟨n', hn'⟩ := h.drawnAt (Graph.bounded_empty name) (k + 2) (Nat.le_add_left 2 k) hlt
    obtain rfl := Option.some.inj (hn.symm.trans hn'.node)
    have hne : Graph.start ≠ k + 2 := nofun
    have hdrawn := hn'.addEdge hne entry .sequential
    exact ⟨hdrawn.id, by simp [hdrawn.not_start, Graph.start],
      by simp [hdrawn.not_implicitReturn, Graph.implicitReturn], hdrawn.leaves⟩

theorem DrawsAll.points_eq (h : DrawsAll ss .ofFunction (Graph.empty name) entry g) :
    g.points = List.range g.nodes.size := by
  refine List.ext_getElem (by simp [Graph.points]) fun k hk _ => ?_
  simp only [Graph.points, List.length_map, Array.length_toList] at hk
  have hid := (h.shape_of_node (Array.getElem?_eq_getElem hk)).1
  simpa [Graph.points] using hid

/-- Every edge of a function leads to a point behind the start. -/
theorem DrawsAll.dst_of_edge (h : DrawsAll ss .ofFunction (Graph.empty name) entry g) {e : Edge}
    (he : e ∈ (g.addEdge Graph.start entry .sequential).edges) :
    Graph.start < e.dst ∧ e.dst < g.nodes.size := by
  have hreach : Targets.ofFunction.Reaches (Graph.empty name) g e.dst := by
    rcases Graph.mem_edges_addEdge.1 he with he | rfl
    · exact (h.dst_reaches e he).resolve_left (by simp [Graph.empty])
    · exact h.entry_reaches
  have hsize : 2 ≤ g.nodes.size := h.graph_extends.size
  rcases hreach with hend | ⟨hnew, hlt⟩
  · have hend : Graph.implicitReturn = e.dst := by
      simpa [Targets.Has, Targets.ofFunction, eq_comm] using hend
    rw [← hend]
    exact ⟨Nat.zero_lt_one, hsize⟩
  · exact ⟨Nat.lt_of_lt_of_le Nat.zero_lt_two hnew, hlt⟩

end Function

/-- The flow graph of a function that can be drawn is well shaped: nodes are numbered in order, the two synthetic
points come first and no other node is of their kinds, the nodes have the edges of the graph in their lists, the edges
that leave a node are those that its kind calls for, none leads to the start, all join nodes, and there are one for the
start, one for each statement and two for each condition. -/
theorem wellShaped_ofStatements {ss : List Statement} {name : Option String} {g : Graph}
    (h : (Graph.ofStatements ss name).outcome = .ok g) : g.WellShaped := by
  obtain ⟨entry, g', hdraws, rfl⟩ := drawsAll_of_ofStatements h
  have hsize : 2 ≤ g'.nodes.size := hdraws.graph_extends.size
  have hpoints : (g'.addEdge Graph.start entry .sequential).points = List.range g'.nodes.size :=
    hdraws.points_eq
  have hshape (n : Node) (hn : n ∈ g'.nodes) : (n.kind = .start ↔ n.id = Graph.start) ∧
      (n.kind = .implicitReturn ↔ n.id = Graph.implicitReturn) ∧
      n.Leaves ((g'.addEdge Graph.start entry .sequential).leaving n.id) := by
    obtain ⟨k, hk⟩ := Array.mem_iff_getElem?.1 hn
    obtain ⟨rfl, hshape⟩ := hdraws.shape_of_node hk
    exact hshape
  have hbounded : (g'.addEdge Graph.start entry .sequential).Bounded :=
    (hdraws.bounded (Graph.bounded_empty name)).addEdge (Nat.lt_of_lt_of_le Nat.zero_lt_two hsize) _ _
  have hcount : g'.edges.size + 0 = 0 + g'.dueEdges := hdraws.size_edges
  exact {
    points_eq := hpoints
    two_le_size := hsize
    start_iff := fun n hn => (hshape n hn).1
    implicitReturn_iff := fun n hn => (hshape n hn).2.1
    linked := linked_ofStatements h
    leaves := fun n hn => (hshape n hn).2.2
    entering_start := by
      refine List.eq_nil_iff_forall_not_mem.2 fun e he => ?_
      obtain ⟨hedge, hdst⟩ := (linked_ofStatements h).mem_entering.1 he
      exact Nat.ne_of_gt (hdraws.dst_of_edge hedge).1 hdst
    ends := fun e he => by
      rw [hpoints, List.mem_range, List.mem_range]
      exact ⟨hbounded.src_lt (linked_ofStatements h) he, (hdraws.dst_of_edge he).2⟩
    size_edges := by
      rw [Graph.size_edges_addEdge]
      unfold Graph.dueEdges at hcount
      unfold Graph.nodesOfKind at hcount ⊢
      rw [Graph.nodes_addEdge]
      omega }

/-- The loop `for (i = 0; i < n; i++) { while (more) { continue; x = 1; } break; } return i;` with a statement that
is never reached. It has eight points and eight edges. -/
theorem wellShaped_ofStatements_nested :
    let plain (label : String) : Option Statement := some (.mk .other label [] none)
    let inner : Statement := .mk .whileLoop "" [plain "more", some (.mk .compound ""
      [some (.mk .continueLoop "" [] none), plain "x = 1"] none)] none
    let body : Statement := .mk .compound "" [some inner, some (.mk .breakOut "" [] none)] none
    let ss : List Statement :=
      [.mk .forLoop "" [plain "i = 0", plain "i < n", plain "i++", some body] none,
        .mk .ret "return i" [] none]
    ∃ g, (Graph.ofStatements ss none).outcome = .ok g ∧ g.WellShaped ∧ g.nodes.size = 8 ∧
      g.edges.size = 8 := by
  intro plain inner body ss
  have hdrawn : (Graph.ofStatements ss none).outcome.toOption.map
      (fun g => (g.nodes.size, g.edges.size)) = some (8, 8) := by decide +kernel
  cases hg : (Graph.ofStatements ss none).outcome with
  | error => simp [hg, Except.toOption] at hdrawn
  | ok g =>
    obtain ⟨hnodes, hedges⟩ := Prod.mk.inj (Option.some.inj (hg ▸ hdrawn))
    exact ⟨g, rfl, wellShaped_ofStatements hg, hnodes, hedges⟩

end LoanCheck.Flow

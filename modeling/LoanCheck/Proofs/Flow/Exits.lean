import LoanCheck.Proofs.Flow.Shape
import Mathlib.Logic.Relation

/-!
# Control can leave from everywhere

From every point of a drawn function, dead code included, some path leads to a return (`canReturn_ofStatements`).

While a body is drawn, the condition of the loop around it has no edges yet, so that nothing leads on from the
targets of the body. The induction therefore speaks about the finished graph, of which a drawing gives a part
(`Graph.Agrees`) : if a return can be reached from all targets, it can be reached from all points that the
statement adds (`Draws.finishes_of_reaches`). A loop keeps this up for its body, since its condition leads to the
point after the loop.
-/

namespace LoanCheck.Flow

namespace Graph

/-- An edge leads from one point to the other. -/
def Joins (g : Graph) (k m : NodeId) : Prop :=
  ∃ e ∈ g.edges, e.src = k ∧ e.dst = m

/-- Some path along the edges leads from the point to a return, explicit or implicit. -/
def CanReturn (g : Graph) (k : NodeId) : Prop :=
  ∃ m n, Relation.ReflTransGen g.Joins k m ∧ g.nodes[m]? = some n ∧
    (n.kind = .ret ∨ n.kind = .implicitReturn)

theorem Finishes.canReturn {g : Graph} {k : NodeId} {u : List Event} (h : g.Finishes k u) :
    g.CanReturn k := by
  induction h with
  | stop hnode hkind => exact ⟨_, _, .refl, hnode, hkind⟩
  | step he _ _ ih =>
    obtain ⟨m, n, hpath, hnode, hkind⟩ := ih
    exact ⟨m, n, .head ⟨_, he, rfl, rfl⟩ hpath, hnode, hkind⟩

end Graph

/-- A return can be reached from all targets. -/
def Targets.Finish (t : Targets) (G : Graph) : Prop :=
  ∀ k, t.Has k → ∃ u, G.Finishes k u

namespace Targets

variable {G g g' : Graph} {t : Targets} {k : NodeId}

theorem Reaches.has (h : t.Reaches g g k) : t.Has k :=
  h.resolve_right fun hk => Nat.not_lt.2 hk.1 hk.2

/-- What is reached is the first new point, or it is reached without that. -/
theorem Reaches.eq_or_addNode (h : t.Reaches g g' k) (kind : NodeKind) (d : String)
    (l : Option SourceSpan) : k = g.nodes.size ∨ t.Reaches (g.addNode kind d l).2 g' k := by
  rcases h with h | ⟨hk, hlt⟩
  · exact .inr (.inl h)
  · rcases Nat.eq_or_lt_of_le hk with hk | hk
    · exact .inl hk.symm
    · exact .inr (.inr ⟨by rwa [Graph.size_addNode], hlt⟩)

/-- Inside of a loop a return can be reached from the targets if it can be from the increment clause and from
the point after the loop. -/
theorem finish_loop {after next : NodeId} (hafter : ∃ u, G.Finishes after u)
    (hnext : ∃ u, G.Finishes next u) : Finish ⟨after, some next, some after⟩ G := by
  rintro k (rfl | hk | hk)
  · exact hafter
  · cases hk
    exact hnext
  · cases hk
    exact hafter

end Targets

section Drawn

variable {G : Graph}

open Flow.Graph (Extends)

mutual

/-- In the finished graph, a return can be reached from every point that a statement adds, if it can be from the
targets of the statement. -/
theorem Draws.finishes_of_reaches {s : Statement} {t : Targets} {g g' : Graph} {e : NodeId} :
    Draws s t g e g' → g.Bounded → G.Agrees g g' → t.Finish G →
      ∀ k, t.Reaches g g' k → ∃ u, G.Finishes k u
  | .ret, hg, hG, ht, k, hk => by
    rcases hk.eq_or_addNode _ _ _ with rfl | hk
    · obtain ⟨hnode, hleaving⟩ := (Extends.refl _).new_node hg
      exact ⟨_, .stop ((hG.node _ (Nat.le_refl _) (by simp)).trans hnode) (.inl rfl)⟩
    · exact ht k hk.has
  | .breakOut _, _, _, ht, k, hk => ht k hk.has
  | .continueLoop _, _, _, ht, k, hk => ht k hk.has
  | .other, hg, hG, ht, k, hk => by
    rcases hk.eq_or_addNode _ _ _ with rfl | hk
    · obtain ⟨hnode, hleaving⟩ := (Extends.refl _).new_node hg
      obtain ⟨v, hv⟩ := ht _ (.inl rfl)
      have hnode' := (hG.node _ (Nat.le_refl _) (by simp)).trans hnode
      have hleaving' := hG.leaving _ (Nat.le_refl _) (by simp)
      rw [Graph.leaving_addEdge, if_pos rfl, hleaving] at hleaving'
      exact ⟨_, (Graph.finishes_statement_iff hG.linked hnode' hleaving').2 ⟨v, rfl, hv⟩⟩
    · exact ht k hk.has
  | .cond hbody, hg, hG, ht, k, hk => by
    obtain ⟨hG', hchoice⟩ := hG.of_choice hg hbody.graph_extends
    obtain ⟨v, hv⟩ := ht _ (.inl rfl)
    rcases hk.eq_or_addNode _ _ _ with rfl | hk
    · exact ⟨_, (hchoice _).2 (.inr ⟨v, rfl, hv⟩)⟩
    · exact hbody.finishes_of_reaches (hg.addNode _ _ _) hG' ht k hk
  | .whileLoop hbody, hg, hG, ht, k, hk => by
    obtain ⟨hG', hchoice⟩ := hG.of_choice hg hbody.graph_extends
    have hnext := ht _ (.inl rfl)
    have hback : ∃ u, G.Finishes g.nodes.size u :=
      hnext.elim fun v hv => ⟨_, (hchoice _).2 (.inr ⟨v, rfl, hv⟩)⟩
    have hinside := hbody.finishes_of_reaches (hg.addNode _ _ _) hG' (Targets.finish_loop hback hnext)
    rcases hk with hk | ⟨hk, hlt⟩
    · exact ht k hk
    · rcases Nat.eq_or_lt_of_le hk with rfl | hk
      · exact hback
      · exact hinside k (.inr ⟨by rwa [Graph.size_addNode], hlt⟩)
  | .forLoop hbody, hg, hG, ht, k, hk => by
    obtain ⟨hG', hfirst, hafter, hchoice⟩ := hG.of_counted hg hbody.graph_extends
    have hnext := ht _ (.inl rfl)
    have hback : ∃ u, G.Finishes (g.nodes.size + 2) u :=
      hnext.elim fun v hv => ⟨_, (hchoice _).2 (.inr ⟨v, rfl, hv⟩)⟩
    have hagain : ∃ u, G.Finishes (g.nodes.size + 1) u :=
      hback.elim fun v hv => ⟨_, (hafter _).2 ⟨v, rfl, hv⟩⟩
    have hinside := hbody.finishes_of_reaches (((hg.addNode _ _ _).addNode _ _ _).addNode _ _ _) hG'
      (Targets.finish_loop hagain hnext)
    rcases hk with hk | ⟨hk, hlt⟩
    · exact ht k hk
    · rcases Nat.eq_or_lt_of_le hk with rfl | hk
      · exact hback.elim fun v hv => ⟨_, (hfirst _).2 ⟨v, rfl, hv⟩⟩
      rcases Nat.eq_or_lt_of_le hk with rfl | hk
      · exact hagain
      rcases Nat.eq_or_lt_of_le hk with rfl | hk
      · exact hback
      · exact hinside k (.inr ⟨by simp only [Graph.size_addNode]; exact hk, hlt⟩)
  | .compound _ hall, hg, hG, ht, k, hk => hall.finishes_of_reaches hg hG ht k hk

theorem DrawsAll.finishes_of_reaches {ss : List Statement} {t : Targets} {g g' : Graph} {e : NodeId} :
    DrawsAll ss t g e g' → g.Bounded → G.Agrees g g' → t.Finish G →
      ∀ k, t.Reaches g g' k → ∃ u, G.Finishes k u
  | .nil, _, _, ht, k, hk => ht k hk.has
  | @DrawsAll.cons _ _ _ _ _ g₁ _ _ hall hs, hg, hG, ht, k, hk => by
    have hrest := hall.finishes_of_reaches hg (hG.of_extends hs.graph_extends) ht
    have hfirst := hs.finishes_of_reaches (hall.bounded hg) (hG.of_le hall.graph_extends.size) <| by
      rintro j (rfl | hj)
      · exact hrest _ hall.entry_reaches
      · exact ht j (.inr hj)
    rcases hk with hk | ⟨hk, hlt⟩
    · exact ht k hk
    · rcases Nat.lt_or_ge k g₁.nodes.size with hold | hnew
      · exact hrest k (.inr ⟨hk, hold⟩)
      · exact hfirst k (.inr ⟨hnew, hlt⟩)

end

end Drawn

/-- From every point of a function that can be drawn, whether control comes there or not, some path leads to a
return, explicit or implicit. -/
theorem canReturn_ofStatements {ss : List Statement} {name : Option String} {g : Graph}
    (h : (Graph.ofStatements ss name).outcome = .ok g) : ∀ k ∈ g.points, g.CanReturn k := by
  obtain ⟨entry, g', hdraws, rfl⟩ := drawsAll_of_ofStatements h
  have hagrees : Graph.Agrees (g'.addEdge Graph.start entry .sequential) (Graph.empty name) g' :=
    (Graph.Agrees.refl (linked_ofStatements h) _).of_addEdge Nat.zero_lt_two
  have hend : Targets.ofFunction.Finish (g'.addEdge Graph.start entry .sequential) := by
    intro k hk
    obtain rfl : Graph.implicitReturn = k := by
      simpa [Targets.Has, Targets.ofFunction, eq_comm] using hk
    exact ⟨_, .stop (hdraws.graph_extends.node Graph.implicitReturn Nat.one_lt_two) (.inr rfl)⟩
  have hfinishes := hdraws.finishes_of_reaches (Graph.bounded_empty name) hagrees hend
  intro k hk
  have hlt : k < g'.nodes.size := List.mem_range.1 (hdraws.points_eq ▸ hk)
  rcases k with _ | _ | k
  · obtain ⟨u, hu⟩ := hfinishes entry hdraws.entry_reaches
    have hnode := hdraws.graph_extends.node Graph.start Nat.zero_lt_two
    exact (Graph.Finishes.step (Graph.mem_edges_addEdge.2 (.inr rfl)) hnode hu).canReturn
  · obtain ⟨u, hu⟩ := hend _ (.inl rfl)
    exact hu.canReturn
  · obtain ⟨u, hu⟩ := hfinishes (k + 2) (.inr ⟨Nat.le_add_left 2 k, hlt⟩)
    exact hu.canReturn

/-- The loop `for (i = 0; true; i++) { while (more) { continue; x = 1; } continue; }`. No edge leads to the
statement behind the inner `continue`, which is the last of seven points, and still control can leave from it. -/
theorem canReturn_ofStatements_dead :
    let plain (label : String) : Option Statement := some (.mk .other label [] none)
    let jump : Option Statement := some (.mk .continueLoop "" [] none)
    let inner : Statement :=
      .mk .whileLoop "" [plain "more", some (.mk .compound "" [jump, plain "x = 1"] none)] none
    let ss : List Statement := [.mk .forLoop "" [plain "i = 0", plain "true", plain "i++",
      some (.mk .compound "" [some inner, jump] none)] none]
    ∃ g, (Graph.ofStatements ss none).outcome = .ok g ∧ g.points = [0, 1, 2, 3, 4, 5, 6] ∧
      g.predecessors 6 = [] ∧ g.CanReturn 6 := by
  intro plain jump inner ss
  have hdrawn : (Graph.ofStatements ss none).outcome.toOption.map
      (fun g => (g.points, g.predecessors 6)) = some ([0, 1, 2, 3, 4, 5, 6], []) := by decide +kernel
  cases hg : (Graph.ofStatements ss none).outcome with
  | error => simp [hg, Except.toOption] at hdrawn
  | ok g =>
    obtain ⟨hpoints, hdead⟩ := Prod.mk.inj (Option.some.inj (hg ▸ hdrawn))
    exact ⟨g, rfl, hpoints, hdead, canReturn_ofStatements hg 6 (by simp [hpoints])⟩

end LoanCheck.Flow

import LoanCheck.Proofs.Flow.Semantics

/-!
# Drawn graphs have the traces of their statements

A path through a drawn statement is a run of the statement followed by a path from the target that the outcome
of the run leads to (`Targets.Completes`). `Draws.finishes_iff` says so for every statement, by induction over
the drawing, and `finishes_start_iff_terminates` for a function.

The induction speaks about the finished graph, as paths leave the part that is being drawn and may come back to
it: `Graph.Agrees` says that the finished graph has that part as it was drawn. The back edge of a loop is where
the induction over the drawing gives nothing. There a path is followed by its length, since every turn emits the
condition (`Graph.Turns.completes_of_finishes`).
-/

namespace LoanCheck.Flow

open Flow.Graph (Extends)

/-! ## Parts of a finished graph -/

namespace Graph

/-- The points that are in the second graph and not yet in the first are in `G` as in the second graph, and `G` has
at its nodes the edges that it has. -/
structure Agrees (G g g' : Graph) : Prop where
  linked : G.Linked
  node : ∀ k, g.nodes.size ≤ k → k < g'.nodes.size → G.nodes[k]? = g'.nodes[k]?
  leaving : ∀ k, g.nodes.size ≤ k → k < g'.nodes.size → G.leaving k = g'.leaving k

namespace Agrees

variable {G g g₁ g' : Graph}

theorem refl (h : G.Linked) (g : Graph) : G.Agrees g G :=
  ⟨h, fun _ _ _ => rfl, fun _ _ _ => rfl⟩

theorem of_le (h : G.Agrees g g') (hle : g.nodes.size ≤ g₁.nodes.size) : G.Agrees g₁ g' where
  linked := h.linked
  node k hk := h.node k (Nat.le_trans hle hk)
  leaving k hk := h.leaving k (Nat.le_trans hle hk)

theorem of_extends (h : G.Agrees g g') (hext : g₁.Extends g') : G.Agrees g g₁ where
  linked := h.linked
  node k hk hlt := (h.node k hk (Nat.lt_of_lt_of_le hlt hext.size)).trans (hext.node k hlt)
  leaving k hk hlt := (h.leaving k hk (Nat.lt_of_lt_of_le hlt hext.size)).trans (hext.leaving k hlt)

/-- An edge from an older point does not matter. -/
theorem of_addEdge {src dst : NodeId} {branch : Branch} (h : G.Agrees g (g'.addEdge src dst branch))
    (hsrc : src < g.nodes.size) : G.Agrees g g' where
  linked := h.linked
  node := h.node
  leaving k hk hlt := by
    rw [h.leaving k hk hlt, leaving_addEdge, if_neg (Nat.ne_of_lt (Nat.lt_of_lt_of_le hsrc hk))]

end Agrees

/-- A node that was added to a bounded graph, and what was drawn after it. -/
theorem Extends.new_node {g g' : Graph} {kind : NodeKind} {d : String} {l : Option SourceSpan}
    (h : Extends (g.addNode kind d l).2 g') (hg : g.Bounded) :
    g'.nodes[g.nodes.size]? = some ⟨g.nodes.size, kind, d, l⟩ ∧ g'.leaving g.nodes.size = [] := by
  have hlt : g.nodes.size < (g.addNode kind d l).2.nodes.size := by simp
  constructor
  · rw [h.node _ hlt, getElem?_addNode, if_pos rfl]
  · rw [h.leaving _ hlt, leaving_addNode, hg _ (Nat.le_refl _)]

/-- The three nodes of a counted loop, and what was drawn after them. -/
theorem Extends.new_counted {g g' : Graph} {i p c : String} {li lp lc : Option SourceSpan}
    (h : Extends (((g.addNode .statement i li).2.addNode .statement p lp).2.addNode
      .conditionalGoto c lc).2 g') (hg : g.Bounded) :
    (g'.nodes[g.nodes.size]? = some ⟨g.nodes.size, .statement, i, li⟩ ∧
        g'.leaving g.nodes.size = []) ∧
      (g'.nodes[g.nodes.size + 1]? = some ⟨g.nodes.size + 1, .statement, p, lp⟩ ∧
        g'.leaving (g.nodes.size + 1) = []) ∧
      g'.nodes[g.nodes.size + 2]? = some ⟨g.nodes.size + 2, .conditionalGoto, c, lc⟩ ∧
        g'.leaving (g.nodes.size + 2) = [] := by
  have h₂ := ((Extends.refl _).addNode _ _ _).trans h
  have h₁ := ((Extends.refl _).addNode _ _ _).trans h₂
  have hafter := h₂.new_node (hg.addNode _ _ _)
  have hchoice := h.new_node ((hg.addNode _ _ _).addNode _ _ _)
  simp only [size_addNode, Nat.add_assoc, Nat.reduceAdd] at hafter hchoice
  exact ⟨h₁.new_node hg, hafter, hchoice⟩

end Graph

/-! ## Runs followed by paths -/

namespace Targets

/-- The paths that follow an outcome. -/
def Resumes (G : Graph) (t : Targets) : Outcome → List Event → Prop
  | .next, u => G.Finishes t.next u
  | .breakOut, u => ∃ k, t.breakTo = some k ∧ G.Finishes k u
  | .continueLoop, u => ∃ k, t.continueTo = some k ∧ G.Finishes k u
  | .ret, u => u = []

/-- A run, and then a path that follows its outcome. -/
def Completes (G : Graph) (t : Targets) (run : List Event → Outcome → Prop) (u : List Event) : Prop :=
  ∃ v w o, u = v ++ w ∧ run v o ∧ t.Resumes G o w

variable {G : Graph} {t : Targets} {u : List Event}

/-- What has a single run completes it and resumes from its outcome. -/
theorem completes_single_iff {run : List Event → Outcome → Prop} {v : List Event} {o : Outcome}
    (h : ∀ v' o', run v' o' ↔ v' = v ∧ o' = o) :
    t.Completes G run u ↔ ∃ w, u = v ++ w ∧ t.Resumes G o w := by
  constructor
  · rintro ⟨v', w, o', rfl, hrun, hw⟩
    obtain ⟨rfl, rfl⟩ := (h v' o').1 hrun
    exact ⟨w, rfl, hw⟩
  · rintro ⟨w, rfl, hw⟩
    exact ⟨v, w, o, rfl, (h v o).2 ⟨rfl, rfl⟩, hw⟩

/-- Only what falls through goes on to the next statement of a list. -/
theorem completes_cons_iff {s : Statement} {ss : List Statement} {next : NodeId}
    (hnext : ∀ u, G.Finishes next u ↔ t.Completes G (RunsAll ss) u) :
    Completes G { t with next } (Runs s) u ↔ t.Completes G (RunsAll (s :: ss)) u := by
  constructor
  · rintro ⟨v, w, o, rfl, hv, hw⟩
    by_cases ho : o = .next
    · subst ho
      obtain ⟨w₁, w₂, o', rfl, hw₁, hw₂⟩ := (hnext w).1 hw
      exact ⟨v ++ w₁, w₂, o', (List.append_assoc ..).symm, .cons hv hw₁, hw₂⟩
    · refine ⟨v, w, o, rfl, .leave hv ho, ?_⟩
      cases o with
      | next => exact absurd rfl ho
      | breakOut | continueLoop | ret => exact hw
  · rintro ⟨v, w, o, rfl, hv, hw⟩
    rcases runsAll_cons_iff.1 hv with ⟨v₁, v₂, rfl, hv₁, hv₂⟩ | ⟨hv, ho⟩
    · exact ⟨v₁, v₂ ++ w, .next, List.append_assoc .., hv₁, (hnext _).2 ⟨v₂, w, o, rfl, hv₂, hw⟩⟩
    · refine ⟨v, w, o, rfl, hv, ?_⟩
      cases o with
      | next => exact absurd rfl ho
      | breakOut | continueLoop | ret => exact hw

theorem completes_cond_iff {d : String} {c b : Statement} {rest : List (Option Statement)}
    {l : Option SourceSpan} : t.Completes G (Runs (.mk .cond d (some c :: some b :: rest) l)) u ↔
      (∃ v, u = .choice c.label .whenTrue :: v ∧ t.Completes G (Runs b) v) ∨
        ∃ v, u = .choice c.label .whenFalse :: v ∧ G.Finishes t.next v := by
  constructor
  · rintro ⟨v, w, o, rfl, hv, hw⟩
    rcases runs_cond_iff.1 hv with ⟨v', rfl, hv'⟩ | ⟨rfl, rfl⟩
    · exact Or.inl ⟨v' ++ w, rfl, v', w, o, rfl, hv', hw⟩
    · exact Or.inr ⟨w, rfl, hw⟩
  · rintro (⟨_, rfl, v, w, o, rfl, hv, hw⟩ | ⟨w, rfl, hw⟩)
    · exact ⟨_, w, o, rfl, .condTrue hv, hw⟩
    · exact ⟨[_], w, .next, rfl, .condFalse, hw⟩

theorem completes_forLoop_iff {d : String} {i c p b : Statement} {rest : List (Option Statement)}
    {l : Option SourceSpan} :
    t.Completes G (Runs (.mk .forLoop d (some i :: some c :: some p :: some b :: rest) l)) u ↔
      ∃ v, u = .visit i.label :: v ∧ t.Completes G (Loops c.label [.visit p.label] b) v := by
  constructor
  · rintro ⟨_, w, o, rfl, hv, hw⟩
    obtain ⟨v, rfl, hloop⟩ := runs_forLoop_iff.1 hv
    exact ⟨v ++ w, rfl, v, w, o, rfl, hloop, hw⟩
  · rintro ⟨_, rfl, v, w, o, rfl, hv, hw⟩
    exact ⟨_, w, o, rfl, .forLoop hv, hw⟩

end Targets

/-! ## Loops -/

/-- A loop in a graph: the condition leads to the body and to where the loop leads, the body to the increment
clause, and that back to the condition. -/
structure Graph.Turns (G : Graph) (t : Targets) (c : String) (post : List Event) (b : Statement)
    (choice after entry : NodeId) : Prop where
  choice_iff : ∀ u, G.Finishes choice u ↔
    (∃ v, u = .choice c .whenTrue :: v ∧ G.Finishes entry v) ∨
      ∃ v, u = .choice c .whenFalse :: v ∧ G.Finishes t.next v
  after_iff : ∀ u, G.Finishes after u ↔ ∃ v, u = post ++ v ∧ G.Finishes choice v
  body_iff : ∀ u, G.Finishes entry u ↔
    Targets.Completes G ⟨after, some t.next, some after⟩ (Runs b) u

namespace Graph.Turns

variable {G : Graph} {t : Targets} {c : String} {post : List Event} {b : Statement}
  {choice after entry : NodeId}

/-- What follows the body goes back to the condition if the body falls through or continues. -/
theorem resumes_back_iff (h : G.Turns t c post b choice after entry) {o : Outcome}
    (ho : o = .next ∨ o = .continueLoop) (u : List Event) :
    Targets.Resumes G ⟨after, some t.next, some after⟩ o u ↔
      ∃ v, u = post ++ v ∧ G.Finishes choice v := by
  rw [← h.after_iff]
  rcases ho with rfl | rfl <;> simp [Targets.Resumes]

/-- A path from the condition runs the loop. -/
theorem completes_of_finishes (h : G.Turns t c post b choice after entry) {u : List Event}
    (hu : G.Finishes choice u) : t.Completes G (Loops c post b) u := by
  -- the path is not a part of a drawing; every turn emits the condition, so it gets shorter
  induction hlen : u.length using Nat.strongRecOn generalizing u with
  | ind n ih =>
    have turn : ∀ {v w o}, o = .next ∨ o = .continueLoop → Runs b v o →
        Targets.Resumes G ⟨after, some t.next, some after⟩ o w →
        u = .choice c .whenTrue :: (v ++ w) → t.Completes G (Loops c post b) u := by
      intro v w o ho hv hw hu
      obtain ⟨w', rfl, hw'⟩ := (h.resumes_back_iff ho w).1 hw
      have hshort : w'.length < n := by
        simp only [← hlen, hu, List.length_cons, List.length_append]
        omega
      obtain ⟨x, y, o', rfl, hx, hy⟩ := ih _ hshort hw' rfl
      exact ⟨_, y, o', by simp [hu], .again hv ho hx, hy⟩
    rcases (h.choice_iff u).1 hu with ⟨v, hv, hentry⟩ | ⟨v, hv, hnext⟩
    · obtain ⟨x, y, o, rfl, hx, hy⟩ := (h.body_iff v).1 hentry
      cases o with
      | next => exact turn (Or.inl rfl) hx hy hv
      | continueLoop => exact turn (Or.inr rfl) hx hy hv
      | breakOut =>
        obtain ⟨k, hk, hy⟩ := hy
        cases hk
        exact ⟨_, y, .next, hv, .breakOut hx, hy⟩
      | ret => exact ⟨_, y, .ret, hv, .ret hx, hy⟩
    · exact ⟨_, v, .next, hv, .done, hnext⟩

/-- A run of the loop, followed by a path from its target, is a path from the condition. -/
theorem finishes_of_loops (h : G.Turns t c post b choice after entry) :
    ∀ {v : List Event} {o : Outcome}, Loops c post b v o → ∀ {w}, t.Resumes G o w →
      G.Finishes choice (v ++ w)
  | _, _, .done, w, hw => (h.choice_iff _).2 (Or.inr ⟨w, rfl, hw⟩)
  | _, _, .again hv ho hloop, w, hw => by
    have hback := (h.resumes_back_iff ho _).2 ⟨_, rfl, h.finishes_of_loops hloop hw⟩
    have hentry := (h.body_iff _).2 ⟨_, _, _, rfl, hv, hback⟩
    refine (h.choice_iff _).2 (Or.inl ⟨_, rfl, ?_⟩)
    simpa only [List.append_eq, List.append_assoc] using hentry
  | _, _, .breakOut hv, w, hw =>
    (h.choice_iff _).2 (Or.inl ⟨_, rfl, (h.body_iff _).2 ⟨_, w, _, rfl, hv, t.next, rfl, hw⟩⟩)
  | _, _, .ret hv, w, hw =>
    (h.choice_iff _).2 (Or.inl ⟨_, rfl, (h.body_iff _).2 ⟨_, w, _, rfl, hv, hw⟩⟩)

theorem finishes_choice_iff_completes (h : G.Turns t c post b choice after entry) (u : List Event) :
    G.Finishes choice u ↔ t.Completes G (Loops c post b) u := by
  refine ⟨h.completes_of_finishes, ?_⟩
  rintro ⟨v, w, o, rfl, hv, hw⟩
  exact h.finishes_of_loops hv hw

end Graph.Turns

/-! ## Statements -/

section Drawn

variable {G : Graph}

/-- A condition that is drawn before its body. The edges are added after it. -/
theorem Graph.Agrees.of_choice {g g' : Graph} {d : String} {l : Option SourceSpan}
    {entry next : NodeId} (hg : g.Bounded)
    (hext : Extends (g.addNode .conditionalGoto d l).2 g')
    (hG : G.Agrees g ((g'.addEdge g.nodes.size entry .whenTrue).addEdge g.nodes.size next .whenFalse)) :
    G.Agrees (g.addNode .conditionalGoto d l).2 g' ∧
      ∀ u, G.Finishes g.nodes.size u ↔
        (∃ v, u = .choice d .whenTrue :: v ∧ G.Finishes entry v) ∨
          ∃ v, u = .choice d .whenFalse :: v ∧ G.Finishes next v := by
  obtain ⟨hnode, hleaving⟩ := hext.new_node hg
  have hsize : g.nodes.size < (g.addNode .conditionalGoto d l).2.nodes.size := by simp
  have hlt : g.nodes.size < g'.nodes.size := Nat.lt_of_lt_of_le hsize hext.size
  refine ⟨((hG.of_le (Nat.le_of_lt hsize)).of_addEdge hsize).of_addEdge hsize,
    fun u => Graph.finishes_choice_iff hG.linked ((hG.node _ (Nat.le_refl _) hlt).trans hnode) ?_⟩
  rw [hG.leaving _ (Nat.le_refl _) hlt]
  simp [Graph.leaving_addEdge, hleaving]

/-- The three points of a counted loop, which are drawn before its body. -/
theorem Graph.Agrees.of_counted {g g' : Graph} {i p c : String} {li lp lc : Option SourceSpan}
    {entry next : NodeId} (hg : g.Bounded)
    (hext : Extends (((g.addNode .statement i li).2.addNode .statement p lp).2.addNode
      .conditionalGoto c lc).2 g')
    (hG : G.Agrees g ((((g'.addEdge (g.nodes.size + 1) (g.nodes.size + 2) .sequential).addEdge
      g.nodes.size (g.nodes.size + 2) .sequential).addEdge (g.nodes.size + 2) entry .whenTrue).addEdge
        (g.nodes.size + 2) next .whenFalse)) :
    G.Agrees (((g.addNode .statement i li).2.addNode .statement p lp).2.addNode
        .conditionalGoto c lc).2 g' ∧
      (∀ u, G.Finishes g.nodes.size u ↔
        ∃ v, u = .visit i :: v ∧ G.Finishes (g.nodes.size + 2) v) ∧
      (∀ u, G.Finishes (g.nodes.size + 1) u ↔
        ∃ v, u = .visit p :: v ∧ G.Finishes (g.nodes.size + 2) v) ∧
      ∀ u, G.Finishes (g.nodes.size + 2) u ↔
        (∃ v, u = .choice c .whenTrue :: v ∧ G.Finishes entry v) ∨
          ∃ v, u = .choice c .whenFalse :: v ∧ G.Finishes next v := by
  obtain ⟨⟨hfirst, hfirst'⟩, ⟨hafter, hafter'⟩, hchoice, hchoice'⟩ := hext.new_counted hg
  have hsize (k : Nat) (hk : k ≤ 2) : g.nodes.size + k <
      (((g.addNode .statement i li).2.addNode .statement p lp).2.addNode .conditionalGoto c
        lc).2.nodes.size := by
    simp only [size_addNode]
    omega
  have hnode (k : Nat) (hk : k ≤ 2) : G.nodes[g.nodes.size + k]? = g'.nodes[g.nodes.size + k]? :=
    hG.node _ (Nat.le_add_right _ _) (Nat.lt_of_lt_of_le (hsize k hk) hext.size)
  have hleaving (k : Nat) (hk : k ≤ 2) := hG.leaving (g.nodes.size + k) (Nat.le_add_right _ _)
    (Nat.lt_of_lt_of_le (hsize k hk) hext.size)
  refine ⟨?_, fun u => finishes_statement_iff hG.linked ((hnode 0 (by omega)).trans hfirst) ?_,
    fun u => finishes_statement_iff hG.linked ((hnode 1 (by omega)).trans hafter) ?_,
    fun u => finishes_choice_iff hG.linked ((hnode 2 (by omega)).trans hchoice) ?_⟩
  · exact ((((hG.of_le (Nat.le_of_lt (hsize 0 (by omega)))).of_addEdge (hsize 2 (by omega))).of_addEdge
      (hsize 2 (by omega))).of_addEdge (hsize 0 (by omega))).of_addEdge (hsize 1 (by omega))
  · refine (hleaving 0 (by omega)).trans ?_
    simp [leaving_addEdge, hfirst']
  · rw [hleaving 1 (by omega)]
    simp [leaving_addEdge, hafter']
  · rw [hleaving 2 (by omega)]
    simp [leaving_addEdge, hchoice']

mutual

/-- A path through a drawn statement is a run of it followed by a path from the target of the outcome. -/
theorem Draws.finishes_iff {s : Statement} {t : Targets} {g g' : Graph} {e : NodeId} :
    Draws s t g e g' → g.Bounded → G.Agrees g g' →
      ∀ u, G.Finishes e u ↔ t.Completes G (Runs s) u
  | .ret, hg, hG, u => by
    obtain ⟨hnode, hleaving⟩ := (Extends.refl _).new_node hg
    rw [Graph.finishes_ret_iff hG.linked ((hG.node _ (Nat.le_refl _) (by simp)).trans hnode)
      ((hG.leaving _ (Nat.le_refl _) (by simp)).trans hleaving)]
    rw [Targets.completes_single_iff fun _ _ => runs_ret_iff]
    simp [Targets.Resumes]
  | .breakOut ht, _, _, u => by
    rw [Targets.completes_single_iff fun _ _ => runs_breakOut_iff]
    simp [Targets.Resumes, ht]
  | .continueLoop ht, _, _, u => by
    rw [Targets.completes_single_iff fun _ _ => runs_continueLoop_iff]
    simp [Targets.Resumes, ht]
  | .other, hg, hG, u => by
    obtain ⟨hnode, hleaving⟩ := (Extends.refl _).new_node hg
    have hnode' := (hG.node _ (Nat.le_refl _) (by simp)).trans hnode
    have hleaving' := hG.leaving _ (Nat.le_refl _) (by simp)
    rw [Graph.leaving_addEdge, if_pos rfl, hleaving] at hleaving'
    rw [Graph.finishes_statement_iff hG.linked hnode' hleaving',
      Targets.completes_single_iff fun _ _ => runs_other_iff]
    rfl
  | .cond hbody, hg, hG, u => by
    obtain ⟨hG', hchoice⟩ := hG.of_choice hg hbody.graph_extends
    rw [hchoice, Targets.completes_cond_iff]
    simp only [hbody.finishes_iff (hg.addNode _ _ _) hG']
  | .whileLoop hbody, hg, hG, u => by
    obtain ⟨hG', hchoice⟩ := hG.of_choice hg hbody.graph_extends
    have hturns : G.Turns t _ [] _ _ _ _ :=
      ⟨hchoice, fun u => by simp, hbody.finishes_iff (hg.addNode _ _ _) hG'⟩
    rw [hturns.finishes_choice_iff_completes]
    simp only [Targets.Completes, runs_whileLoop_iff]
  | .forLoop hbody, hg, hG, u => by
    obtain ⟨hG', hfirst, hafter, hchoice⟩ := hG.of_counted hg hbody.graph_extends
    have hturns : G.Turns t _ [_] _ _ _ _ :=
      ⟨hchoice, hafter, hbody.finishes_iff (((hg.addNode _ _ _).addNode _ _ _).addNode _ _ _) hG'⟩
    rw [hfirst, Targets.completes_forLoop_iff]
    simp only [hturns.finishes_choice_iff_completes]
  | .compound hss hall, hg, hG, u => by
    subst hss
    rw [hall.finishes_iff hg hG]
    simp only [Targets.Completes, runs_compound_iff]

theorem DrawsAll.finishes_iff {ss : List Statement} {t : Targets} {g g' : Graph} {e : NodeId} :
    DrawsAll ss t g e g' → g.Bounded → G.Agrees g g' →
      ∀ u, G.Finishes e u ↔ t.Completes G (RunsAll ss) u
  | .nil, _, _, u => by
    rw [Targets.completes_single_iff fun _ _ => runsAll_nil_iff]
    simp [Targets.Resumes]
  | .cons hall hs, hg, hG, u => by
    have hnext := hall.finishes_iff hg (hG.of_extends hs.graph_extends)
    rw [hs.finishes_iff (hall.bounded hg) (hG.of_le hall.graph_extends.size),
      Targets.completes_cons_iff hnext]

end

end Drawn

/-! ## Functions -/

/-- In a function, whatever ends the run but `continue` leads to the implicit return. -/
theorem Targets.resumes_ofFunction_iff {G : Graph}
    (hend : ∀ u, G.Finishes Graph.implicitReturn u ↔ u = []) (o : Outcome) (u : List Event) :
    Targets.ofFunction.Resumes G o u ↔ u = [] ∧ o ≠ .continueLoop := by
  cases o <;> simp [Resumes, ofFunction, hend]

theorem Targets.completes_ofFunction_iff {G : Graph}
    (hend : ∀ u, G.Finishes Graph.implicitReturn u ↔ u = []) (ss : List Statement)
    (u : List Event) : Targets.ofFunction.Completes G (RunsAll ss) u ↔ Terminates ss u := by
  constructor
  · rintro ⟨v, w, o, rfl, hv, hw⟩
    obtain ⟨rfl, ho⟩ := (resumes_ofFunction_iff hend o w).1 hw
    exact ⟨o, by rwa [List.append_nil], ho⟩
  · rintro ⟨o, hu, ho⟩
    exact ⟨u, [], o, (List.append_nil u).symm, hu, (resumes_ofFunction_iff hend o []).2 ⟨rfl, ho⟩⟩

/-- The paths of a drawn function from the start to a return have exactly the traces of its statements. -/
theorem finishes_start_iff_terminates {ss : List Statement} {name : Option String} {g : Graph}
    (h : (Graph.ofStatements ss name).outcome = .ok g) (u : List Event) :
    g.Finishes Graph.start u ↔ Terminates ss u := by
  obtain ⟨entry, g', hdraws, rfl⟩ := drawsAll_of_ofStatements h
  have hbounded := Graph.bounded_empty name
  have hext := hdraws.graph_extends
  have hlinked := linked_ofStatements h
  have hagrees : Graph.Agrees (g'.addEdge Graph.start entry .sequential) (Graph.empty name) g' :=
    (Graph.Agrees.refl hlinked _).of_addEdge Nat.zero_lt_two
  have hstart : ∀ u, (g'.addEdge Graph.start entry .sequential).Finishes Graph.start u ↔
      (g'.addEdge Graph.start entry .sequential).Finishes entry u := fun u => by
    refine Graph.finishes_start_iff hlinked (hext.node Graph.start Nat.zero_lt_two) ?_
    rw [Graph.leaving_addEdge, if_pos rfl, hext.leaving Graph.start Nat.zero_lt_two]
    rfl
  have hend : ∀ u, (g'.addEdge Graph.start entry .sequential).Finishes Graph.implicitReturn u ↔
      u = [] := fun u => by
    refine Graph.finishes_implicitReturn_iff hlinked (hext.node Graph.implicitReturn Nat.one_lt_two) ?_
    rw [Graph.leaving_addEdge, if_neg (by decide), hext.leaving Graph.implicitReturn Nat.one_lt_two]
    rfl
  rw [hstart, hdraws.finishes_iff hbounded hagrees, Targets.completes_ofFunction_iff hend]

/-- The search `for (i = 0; i < n; i++) { if (skip) continue; if (hit) break; } return i;`. One of its traces
skips, hits and returns. -/
theorem finishes_start_iff_terminates_search :
    let clause (label : String) : Option Statement := some (.mk .other label [] none)
    let jump (label : String) (kind : StatementKind) : Statement :=
      .mk .cond "" [clause label, some (.mk kind "" [] none)] none
    let body : Statement :=
      .mk .compound "" ([jump "skip" .continueLoop, jump "hit" .breakOut].map some) none
    let search : List Statement :=
      [.mk .forLoop "" [clause "i = 0", clause "i < n", clause "i++", some body] none,
        .mk .ret "return i" [] none]
    ∃ g, (Graph.ofStatements search none).outcome = .ok g ∧
      (∀ u, g.Finishes Graph.start u ↔ Terminates search u) ∧
      g.Finishes Graph.start [.visit "i = 0", .choice "i < n" .whenTrue, .choice "skip" .whenTrue,
        .visit "i++", .choice "i < n" .whenTrue, .choice "skip" .whenFalse, .choice "hit" .whenTrue,
        .visit "return i"] := by
  intro clause jump body search
  have hskip : Runs body [.choice "skip" .whenTrue] .continueLoop :=
    .compound rfl (.leave (.condTrue .continueLoop) (by decide))
  have hhit : Runs body [.choice "skip" .whenFalse, .choice "hit" .whenTrue] .breakOut :=
    .compound rfl (.cons .condFalse (.leave (.condTrue .breakOut) (by decide)))
  have hfor : Runs (.mk .forLoop "" [clause "i = 0", clause "i < n", clause "i++", some body] none)
      _ .next :=
    .forLoop (.again hskip (Or.inr rfl) (.breakOut hhit))
  have hdrawn : ∃ g, (Graph.ofStatements search none).outcome = .ok g := ⟨_, rfl⟩
  obtain ⟨g, hg⟩ := hdrawn
  exact ⟨g, hg, finishes_start_iff_terminates hg, (finishes_start_iff_terminates hg _).2
    ⟨.ret, .cons hfor (.leave .ret (by decide)), by decide⟩⟩

end LoanCheck.Flow

import LoanCheck.Flow.Build
import Mathlib.Logic.Basic

/-!
# What drawing does to a graph

`Draws` says all that drawing one statement can do : from which graph, with which targets, to which entry point
and graph. `DrawsAll` is the same for a list, which is drawn from its last statement on. `draws_of_draw` reads
them off the drawing steps, so that facts about drawn graphs go by induction over `Draws` and never look at the
steps.

Drawing only adds nodes and edges (`Graph.Grows`), so what both keep up holds of every drawn graph : the lists at its
nodes have the edges of the graph (`Graph.Linked`). `Graph.Extends` says that the nodes that were there are the same
and have the same edges leaving them; every drawing extends its graph (`Draws.graph_extends`). `Graph.Bounded` says
that no edge leaves a number without a node, so a new node starts without edges.
-/

namespace LoanCheck.Flow

/-! ## Nodes and edges -/

namespace Graph

variable (g : Graph)

@[simp] theorem size_addNode (kind : NodeKind) (description : String) (location : Option SourceSpan) :
    (g.addNode kind description location).2.nodes.size = g.nodes.size + 1 := by
  simp [addNode]

@[simp] theorem leaving_addNode (kind : NodeKind) (description : String)
    (location : Option SourceSpan) (k : NodeId) :
    (g.addNode kind description location).2.leaving k = g.leaving k :=
  rfl

theorem getElem?_addNode (kind : NodeKind) (description : String) (location : Option SourceSpan)
    (k : NodeId) : (g.addNode kind description location).2.nodes[k]? =
      if k = g.nodes.size then some ⟨g.nodes.size, kind, description, location⟩ else g.nodes[k]? := by
  simp only [addNode, Array.getElem?_push]

@[simp] theorem nodes_addEdge (src dst : NodeId) (branch : Branch) :
    (g.addEdge src dst branch).nodes = g.nodes :=
  rfl

theorem leaving_addEdge (src dst : NodeId) (branch : Branch) (k : NodeId) :
    (g.addEdge src dst branch).leaving k =
      if src = k then g.leaving k ++ [⟨src, dst, branch⟩] else g.leaving k :=
  Index.get_push ..

theorem entering_addEdge (src dst : NodeId) (branch : Branch) (k : NodeId) :
    (g.addEdge src dst branch).entering k =
      if dst = k then g.entering k ++ [⟨src, dst, branch⟩] else g.entering k :=
  Index.get_push ..

/-- The lists at the nodes have the edges of the graph, in their order. -/
structure Linked : Prop where
  leaving_eq : ∀ k, g.leaving k = g.edges.toList.filter (·.src = k)
  entering_eq : ∀ k, g.entering k = g.edges.toList.filter (·.dst = k)

/-- No edge leaves a number that has no node. -/
def Bounded : Prop :=
  ∀ k, g.nodes.size ≤ k → g.leaving k = []

variable {g}

theorem linked_empty (name : Option String) : (empty name).Linked :=
  ⟨fun _ => rfl, fun _ => rfl⟩

namespace Linked

theorem addNode (h : g.Linked) (kind : NodeKind) (description : String) (location : Option SourceSpan) :
    (g.addNode kind description location).2.Linked :=
  ⟨h.leaving_eq, h.entering_eq⟩

theorem addEdge (h : g.Linked) (src dst : NodeId) (branch : Branch) : (g.addEdge src dst branch).Linked where
  leaving_eq k := by
    rw [leaving_addEdge, h.leaving_eq]
    by_cases hk : src = k <;> simp [Graph.addEdge, hk]
  entering_eq k := by
    rw [entering_addEdge, h.entering_eq]
    by_cases hk : dst = k <;> simp [Graph.addEdge, hk]

theorem mem_leaving (h : g.Linked) {k : NodeId} {e : Edge} : e ∈ g.leaving k ↔ e ∈ g.edges ∧ e.src = k := by
  simp [h.leaving_eq]

theorem mem_entering (h : g.Linked) {k : NodeId} {e : Edge} : e ∈ g.entering k ↔ e ∈ g.edges ∧ e.dst = k := by
  simp [h.entering_eq]

end Linked

theorem bounded_empty (name : Option String) : (empty name).Bounded :=
  fun _ _ => rfl

theorem Bounded.addNode (h : g.Bounded) (kind : NodeKind) (description : String)
    (location : Option SourceSpan) : (g.addNode kind description location).2.Bounded := by
  intro k hk
  rw [leaving_addNode]
  rw [size_addNode] at hk
  exact h k (by omega)

theorem Bounded.addEdge (h : g.Bounded) {src : NodeId} (hsrc : src < g.nodes.size) (dst : NodeId)
    (branch : Branch) : (g.addEdge src dst branch).Bounded := by
  intro k hk
  rw [leaving_addEdge, if_neg (Nat.ne_of_lt (Nat.lt_of_lt_of_le hsrc hk))]
  exact h k hk

/-- The second graph comes from the first one by adding nodes and edges. -/
inductive Grows (g : Graph) : Graph → Prop where
  | refl : Grows g g
  | addNode {g' : Graph} : Grows g g' → ∀ kind description location,
      Grows g (g'.addNode kind description location).2
  | addEdge {g' : Graph} : Grows g g' → ∀ src dst branch, Grows g (g'.addEdge src dst branch)

namespace Grows

variable {g' g'' : Graph}

theorem trans (h : Grows g g') (h' : Grows g' g'') : Grows g g'' := by
  induction h' with
  | refl => exact h
  | addNode _ kind description location ih => exact ih.addNode kind description location
  | addEdge _ src dst branch ih => exact ih.addEdge src dst branch

theorem linked (h : Grows g g') (hg : g.Linked) : g'.Linked := by
  induction h with
  | refl => exact hg
  | addNode _ kind description location ih => exact ih.addNode kind description location
  | addEdge _ src dst branch ih => exact ih.addEdge src dst branch

end Grows

/-- The second graph has the nodes of the first one, with the same edges leaving them, and maybe more. -/
structure Extends (g g' : Graph) : Prop where
  size : g.nodes.size ≤ g'.nodes.size
  node : ∀ k < g.nodes.size, g'.nodes[k]? = g.nodes[k]?
  leaving : ∀ k < g.nodes.size, g'.leaving k = g.leaving k

namespace Extends

variable {g g' g'' : Graph}

theorem refl (g : Graph) : Extends g g :=
  ⟨Nat.le_refl _, fun _ _ => rfl, fun _ _ => rfl⟩

theorem trans (h : Extends g g') (h' : Extends g' g'') : Extends g g'' where
  size := Nat.le_trans h.size h'.size
  node k hk := (h'.node k (Nat.lt_of_lt_of_le hk h.size)).trans (h.node k hk)
  leaving k hk := (h'.leaving k (Nat.lt_of_lt_of_le hk h.size)).trans (h.leaving k hk)

theorem addNode (h : Extends g g') (kind : NodeKind) (description : String)
    (location : Option SourceSpan) : Extends g (g'.addNode kind description location).2 where
  size := by
    rw [size_addNode]
    exact Nat.le_succ_of_le h.size
  node k hk := by
    rw [getElem?_addNode, if_neg (Nat.ne_of_lt (Nat.lt_of_lt_of_le hk h.size))]
    exact h.node k hk
  leaving k hk := h.leaving k hk

/-- An edge that leaves a new node changes no old one. -/
theorem addEdge (h : Extends g g') {src : NodeId} (hsrc : g.nodes.size ≤ src) (dst : NodeId)
    (branch : Branch) : Extends g (g'.addEdge src dst branch) where
  size := h.size
  node k hk := h.node k hk
  leaving k hk := by
    rw [leaving_addEdge, if_neg (Nat.ne_of_gt (Nat.lt_of_lt_of_le hk hsrc))]
    exact h.leaving k hk

end Extends

end Graph

/-! ## What a drawing can be -/

mutual

/-- Drawing a statement towards its targets leads from a graph to an entry point and a graph. -/
inductive Draws : Statement → Targets → Graph → NodeId → Graph → Prop where
  | ret {d cs l t g} :
      Draws (.mk .ret d cs l) t g g.nodes.size
        (g.addNode .ret (Statement.mk .ret d cs l).label l).2
  | breakOut {d cs l t g e} : t.breakTo = some e → Draws (.mk .breakOut d cs l) t g e g
  | continueLoop {d cs l t g e} : t.continueTo = some e → Draws (.mk .continueLoop d cs l) t g e g
  | other {d cs l t g} :
      Draws (.mk .other d cs l) t g g.nodes.size
        ((g.addNode .statement (Statement.mk .other d cs l).label l).2.addEdge g.nodes.size t.next
          .sequential)
  | cond {d c b rest l t g entry g'} :
      Draws b t (g.addNode .conditionalGoto c.label l).2 entry g' →
      Draws (.mk .cond d (some c :: some b :: rest) l) t g g.nodes.size
        ((g'.addEdge g.nodes.size entry .whenTrue).addEdge g.nodes.size t.next .whenFalse)
  | whileLoop {d c b rest l t g entry g'} :
      Draws b ⟨g.nodes.size, some t.next, some g.nodes.size⟩
        (g.addNode .conditionalGoto c.label c.location).2 entry g' →
      Draws (.mk .whileLoop d (some c :: some b :: rest) l) t g g.nodes.size
        ((g'.addEdge g.nodes.size entry .whenTrue).addEdge g.nodes.size t.next .whenFalse)
  | forLoop {d i c p b rest l t g entry g'} :
      Draws b ⟨g.nodes.size + 1, some t.next, some (g.nodes.size + 1)⟩
        (((g.addNode .statement i.label i.location).2.addNode .statement p.label p.location).2.addNode
          .conditionalGoto c.label c.location).2 entry g' →
      Draws (.mk .forLoop d (some i :: some c :: some p :: some b :: rest) l) t g g.nodes.size
        ((((g'.addEdge (g.nodes.size + 1) (g.nodes.size + 2) .sequential).addEdge g.nodes.size
          (g.nodes.size + 2) .sequential).addEdge (g.nodes.size + 2) entry .whenTrue).addEdge
            (g.nodes.size + 2) t.next .whenFalse)
  | compound {d cs ss l t g e g'} : cs = ss.map some → DrawsAll ss t g e g' →
      Draws (.mk .compound d cs l) t g e g'

/-- Drawing a list of statements, each towards the one after it. -/
inductive DrawsAll : List Statement → Targets → Graph → NodeId → Graph → Prop where
  | nil {t g} : DrawsAll [] t g t.next g
  | cons {s ss t g next g₁ e g'} : DrawsAll ss t g next g₁ → Draws s { t with next } g₁ e g' →
      DrawsAll (s :: ss) t g e g'

end

/-! ## Drawing only adds -/

open Flow.Graph (Grows Extends Bounded)

mutual

theorem Draws.graph_grows {s : Statement} {t : Targets} {g g' : Graph} {e : NodeId} :
    Draws s t g e g' → Grows g g'
  | .ret => Grows.refl.addNode _ _ _
  | .breakOut _ => .refl
  | .continueLoop _ => .refl
  | .other => (Grows.refl.addNode _ _ _).addEdge _ _ _
  | .cond h => by
    have hbody := (Grows.refl.addNode _ _ _).trans h.graph_grows
    exact (hbody.addEdge _ _ _).addEdge _ _ _
  | .whileLoop h => by
    have hbody := (Grows.refl.addNode _ _ _).trans h.graph_grows
    exact (hbody.addEdge _ _ _).addEdge _ _ _
  | .forLoop h => by
    have hbody := (((Grows.refl.addNode _ _ _).addNode _ _ _).addNode _ _ _).trans h.graph_grows
    exact (((hbody.addEdge _ _ _).addEdge _ _ _).addEdge _ _ _).addEdge _ _ _
  | .compound _ h => h.graph_grows

theorem DrawsAll.graph_grows {ss : List Statement} {t : Targets} {g g' : Graph} {e : NodeId} :
    DrawsAll ss t g e g' → Grows g g'
  | .nil => .refl
  | .cons hall h => hall.graph_grows.trans h.graph_grows

end

mutual

theorem Draws.graph_extends {s : Statement} {t : Targets} {g g' : Graph} {e : NodeId} :
    Draws s t g e g' → Extends g g'
  | .ret => (Extends.refl g).addNode _ _ _
  | .breakOut _ => .refl g
  | .continueLoop _ => .refl g
  | .other => ((Extends.refl g).addNode _ _ _).addEdge (Nat.le_refl _) _ _
  | .cond h => by
    have hbody := ((Extends.refl g).addNode _ _ _).trans h.graph_extends
    exact (hbody.addEdge (Nat.le_refl _) _ _).addEdge (Nat.le_refl _) _ _
  | .whileLoop h => by
    have hbody := ((Extends.refl g).addNode _ _ _).trans h.graph_extends
    exact (hbody.addEdge (Nat.le_refl _) _ _).addEdge (Nat.le_refl _) _ _
  | .forLoop h => by
    have hbody :=
      ((((Extends.refl g).addNode _ _ _).addNode _ _ _).addNode _ _ _).trans h.graph_extends
    exact (((hbody.addEdge (Nat.le_add_right _ _) _ _).addEdge (Nat.le_refl _) _ _).addEdge
      (Nat.le_add_right _ _) _ _).addEdge (Nat.le_add_right _ _) _ _
  | .compound _ h => h.graph_extends

theorem DrawsAll.graph_extends {ss : List Statement} {t : Targets} {g g' : Graph} {e : NodeId} :
    DrawsAll ss t g e g' → Extends g g'
  | .nil => .refl g
  | .cons hall h => hall.graph_extends.trans h.graph_extends

end

mutual

theorem Draws.bounded {s : Statement} {t : Targets} {g g' : Graph} {e : NodeId} :
    Draws s t g e g' → g.Bounded → g'.Bounded
  | .ret, hg => hg.addNode _ _ _
  | .breakOut _, hg => hg
  | .continueLoop _, hg => hg
  | .other, hg => (hg.addNode _ _ _).addEdge (by simp) _ _
  | .cond h, hg => by
    have hsize := h.graph_extends.size
    rw [Graph.size_addNode] at hsize
    exact ((h.bounded (hg.addNode _ _ _)).addEdge hsize _ _).addEdge hsize _ _
  | .whileLoop h, hg => by
    have hsize := h.graph_extends.size
    rw [Graph.size_addNode] at hsize
    exact ((h.bounded (hg.addNode _ _ _)).addEdge hsize _ _).addEdge hsize _ _
  | .forLoop h, hg => by
    have hsize := h.graph_extends.size
    simp only [Graph.size_addNode] at hsize
    have hbody := h.bounded (((hg.addNode _ _ _).addNode _ _ _).addNode _ _ _)
    refine (((hbody.addEdge ?_ _ _).addEdge ?_ _ _).addEdge ?_ _ _).addEdge ?_ _ _
    all_goals exact Nat.lt_of_lt_of_le (by omega) hsize
  | .compound _ h, hg => h.bounded hg

theorem DrawsAll.bounded {ss : List Statement} {t : Targets} {g g' : Graph} {e : NodeId} :
    DrawsAll ss t g e g' → g.Bounded → g'.Bounded
  | .nil, hg => hg
  | .cons hall h, hg => h.bounded (hall.bounded hg)

end

/-! ## Reading the drawing steps -/

namespace Drawing

theorem bind_eq_ok {α β : Type} {x : Drawing α} {f : α → Drawing β} {d d' : Draft} {b : β} :
    (x >>= f) d = .ok b d' ↔ ∃ a d₁, x d = .ok a d₁ ∧ f a d₁ = .ok b d' := by
  simp only [bind, EStateM.bind]
  cases x d with
  | error => simp
  | ok a d₁ =>
    constructor
    · intro h
      exact ⟨a, d₁, rfl, h⟩
    · rintro ⟨_, _, h, hf⟩
      cases h
      exact hf

theorem graph_of_enterBody {body : Statement} {next : NodeId} {d d' : Draft} {u : Unit}
    (h : enterBody body next d = .ok u d') : d'.graph = d.graph := by
  unfold enterBody at h
  split at h
  · cases h
    rfl
  · cases h
    rfl

end Drawing

theorem isSome_of_firstAbsent? {cs : List (Option Statement)} (h : firstAbsent? cs = none) :
    ∀ c ∈ cs, c.isSome := by
  simpa [firstAbsent?, List.findIdx?_eq_none_iff, Option.isSome_iff_ne_none] using h

open Drawing in
mutual

theorem draws_of_draw : ∀ (s : Statement) {t : Targets} {d d' : Draft} {e : NodeId},
    draw s t d = .ok e d' → Draws s t d.graph e d'.graph
  | .mk kind desc cs loc, t, d, d', e, h => by
    rw [draw.eq_def] at h
    cases kind with
    | ret =>
      cases h
      exact .ret
    | breakOut =>
      cases ht : t.breakTo with
      | none =>
        simp only [ht] at h
        cases h
      | some target =>
        simp only [ht] at h
        cases h
        exact .breakOut ht
    | continueLoop =>
      cases ht : t.continueTo with
      | none =>
        simp only [ht] at h
        cases h
      | some target =>
        simp only [ht] at h
        cases h
        exact .continueLoop ht
    | cond =>
      rcases cs with _ | ⟨_ | c, _ | ⟨_ | b, _ | ⟨_ | e, rest⟩⟩⟩
      -- only a condition and a body without an else branch are drawn
      all_goals try cases h
      all_goals
        simp only [bind_eq_ok] at h
        obtain ⟨_, _, hnode, _, _, henter, _, _, hdraw, _, _, hedge, _, _, hedge', hret⟩ := h
        cases hnode
        have hbody := draws_of_draw _ hdraw
        rw [graph_of_enterBody henter] at hbody
        cases hedge
        cases hedge'
        cases hret
        exact .cond hbody
    | forLoop =>
      rcases cs with _ | ⟨_ | i, _ | ⟨_ | c, _ | ⟨_ | p, _ | ⟨_ | b, rest⟩⟩⟩⟩
      all_goals try cases h
      simp only [bind_eq_ok] at h
      obtain ⟨_, _, hinit, _, _, hafter, _, _, hchoice, _, _, henter, _, _, hdraw, _, _, hedge₁, _, _,
        hedge₂, _, _, hedge₃, _, _, hedge₄, hret⟩ := h
      cases hinit
      cases hafter
      cases hchoice
      have hbody := draws_of_draw _ hdraw
      rw [graph_of_enterBody henter] at hbody
      cases hedge₁
      cases hedge₂
      cases hedge₃
      cases hedge₄
      cases hret
      simp only [Graph.addEdge, Array.size_push] at hbody ⊢
      exact Draws.forLoop (by simpa only [Graph.addNode, Array.size_push] using hbody)
    | whileLoop =>
      rcases cs with _ | ⟨_ | c, _ | ⟨_ | b, rest⟩⟩
      all_goals try cases h
      simp only [bind_eq_ok] at h
      obtain ⟨_, _, hnode, _, _, henter, _, _, hdraw, _, _, hedge, _, _, hedge', hret⟩ := h
      cases hnode
      have hbody := draws_of_draw _ hdraw
      rw [graph_of_enterBody henter] at hbody
      cases hedge
      cases hedge'
      cases hret
      exact .whileLoop hbody
    | compound =>
      cases habsent : firstAbsent? cs with
      | some i =>
        simp only [habsent] at h
        cases h
      | none =>
        simp only [habsent, bind_eq_ok] at h
        obtain ⟨_, _, henter, hall⟩ := h
        cases henter
        obtain ⟨ss, hss, hdraws⟩ := drawsAll_of_drawAll cs (isSome_of_firstAbsent? habsent) hall
        exact .compound hss hdraws
    | unsupported => cases h
    | other =>
      cases h
      exact .other

theorem drawsAll_of_drawAll : ∀ (cs : List (Option Statement)), (∀ c ∈ cs, c.isSome) →
    ∀ {t : Targets} {d d' : Draft} {e : NodeId}, drawAll cs t d = .ok e d' →
      ∃ ss, cs = ss.map some ∧ DrawsAll ss t d.graph e d'.graph
  | [], _, t, d, d', e, h => by
    cases h
    exact ⟨[], rfl, .nil⟩
  | none :: cs, hsome, _, _, _, _, _ => by
    simpa using hsome none List.mem_cons_self
  | some s :: cs, hsome, t, d, d', e, h => by
    rw [drawAll, bind_eq_ok] at h
    obtain ⟨next, d₁, hrest, hs⟩ := h
    obtain ⟨ss, rfl, hdraws⟩ :=
      drawsAll_of_drawAll cs (fun c hc => hsome c (List.mem_cons_of_mem _ hc)) hrest
    exact ⟨s :: ss, rfl, .cons hdraws (draws_of_draw s hs)⟩

end

open Drawing in
theorem drawsAll_of_drawBlock {ss : List Statement} {t : Targets} {d d' : Draft} {e : NodeId}
    (h : drawBlock ss t d = .ok e d') : DrawsAll ss t d.graph e d'.graph := by
  rw [drawBlock, bind_eq_ok] at h
  obtain ⟨_, _, henter, hall⟩ := h
  cases henter
  obtain ⟨ss', hss, hdraws⟩ := drawsAll_of_drawAll (ss.map some) (by simp) hall
  rw [List.map_inj_right fun _ _ h => Option.some.inj h] at hss
  rwa [hss]

open Drawing in
/-- A function that can be drawn is drawn over the two synthetic points, and then joined to the start. -/
theorem drawsAll_of_ofStatements {ss : List Statement} {name : Option String} {g : Graph}
    (h : (Graph.ofStatements ss name).outcome = .ok g) :
    ∃ entry g', DrawsAll ss .ofFunction (Graph.empty name) entry g' ∧
      g = g'.addEdge Graph.start entry .sequential := by
  cases hdraw : drawFunction ss ⟨Graph.empty name, #[]⟩ with
  | error =>
    simp only [Graph.ofStatements, hdraw] at h
    cases h
  | ok _ d =>
    simp only [Graph.ofStatements, hdraw] at h
    cases h
    simp only [drawFunction, bind_eq_ok] at hdraw
    obtain ⟨entry, d₁, hblock, hedge⟩ := hdraw
    cases hedge
    exact ⟨entry, _, drawsAll_of_drawBlock hblock, rfl⟩

theorem linked_ofStatements {ss : List Statement} {name : Option String} {g : Graph}
    (h : (Graph.ofStatements ss name).outcome = .ok g) : g.Linked := by
  obtain ⟨entry, g', hdraws, rfl⟩ := drawsAll_of_ofStatements h
  exact (hdraws.graph_grows.linked (Graph.linked_empty name)).addEdge _ _ _

end LoanCheck.Flow

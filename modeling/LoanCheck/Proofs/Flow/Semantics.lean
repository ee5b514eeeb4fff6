import LoanCheck.Proofs.Flow.Drawing

/-!
# Traces of statements and of graphs

What can be observed of control are the labels it comes by, and at a condition also which way it goes on. Which
way that is, is open.

`Runs`, `RunsAll` and `Loops` give the traces of a statement, of a list and of a loop, each together with how
control leaves (`Outcome`), and `Terminates` those of a whole function. `Graph.Finishes` gives the traces of the
finite paths of a graph that end at a return. Nothing here speaks about how a graph is drawn.
-/

namespace LoanCheck.Flow

/-- What a trace consists of. -/
inductive Event where
  /-- Control comes by a statement or a return. -/
  | visit (label : String)
  /-- Control leaves a condition by a branch. -/
  | choice (label : String) (branch : Branch)
deriving DecidableEq, Repr

/-- How control leaves a statement. -/
inductive Outcome where
  /-- It falls through to what comes next. -/
  | next
  /-- It leaves the innermost loop. -/
  | breakOut
  /-- It goes on with the innermost loop. -/
  | continueLoop
  /-- It leaves the function. -/
  | ret
deriving DecidableEq, Repr

/-! ## Statements -/

mutual

/-- The statement can emit the trace and leave with the outcome. -/
inductive Runs : Statement → List Event → Outcome → Prop where
  | other {d cs l} : Runs (.mk .other d cs l) [.visit (Statement.mk .other d cs l).label] .next
  | ret {d cs l} : Runs (.mk .ret d cs l) [.visit (Statement.mk .ret d cs l).label] .ret
  | breakOut {d cs l} : Runs (.mk .breakOut d cs l) [] .breakOut
  | continueLoop {d cs l} : Runs (.mk .continueLoop d cs l) [] .continueLoop
  | condTrue {d c b rest l u o} : Runs b u o →
      Runs (.mk .cond d (some c :: some b :: rest) l) (.choice c.label .whenTrue :: u) o
  | condFalse {d c b rest l} :
      Runs (.mk .cond d (some c :: some b :: rest) l) [.choice c.label .whenFalse] .next
  | whileLoop {d c b rest l u o} : Loops c.label [] b u o →
      Runs (.mk .whileLoop d (some c :: some b :: rest) l) u o
  | forLoop {d i c p b rest l u o} : Loops c.label [.visit p.label] b u o →
      Runs (.mk .forLoop d (some i :: some c :: some p :: some b :: rest) l) (.visit i.label :: u) o
  | compound {d cs ss l u o} : cs = ss.map some → RunsAll ss u o → Runs (.mk .compound d cs l) u o

/-- The statements run in order, up to the first that does not fall through. -/
inductive RunsAll : List Statement → List Event → Outcome → Prop where
  | nil : RunsAll [] [] .next
  | cons {s ss u v o} : Runs s u .next → RunsAll ss v o → RunsAll (s :: ss) (u ++ v) o
  | leave {s ss u o} : Runs s u o → o ≠ .next → RunsAll (s :: ss) u o

/-- A loop, from its condition on. `post` is the trace of the increment clause, which the body and `continue`
lead to. -/
inductive Loops : String → List Event → Statement → List Event → Outcome → Prop where
  | done {c post b} : Loops c post b [.choice c .whenFalse] .next
  | again {c post b u v o o'} : Runs b u o → o = .next ∨ o = .continueLoop → Loops c post b v o' →
      Loops c post b (.choice c .whenTrue :: (u ++ (post ++ v))) o'
  | breakOut {c post b u} : Runs b u .breakOut → Loops c post b (.choice c .whenTrue :: u) .next
  | ret {c post b u} : Runs b u .ret → Loops c post b (.choice c .whenTrue :: u) .ret

end

/-- The traces of a whole function. Falling off the end, a return, and a `break` outside of any loop end it. -/
def Terminates (ss : List Statement) (u : List Event) : Prop :=
  ∃ o, RunsAll ss u o ∧ o ≠ .continueLoop

section Inversion

variable {d : String} {cs rest : List (Option Statement)} {l : Option SourceSpan}
  {i c p b s : Statement} {ss : List Statement} {u : List Event} {o : Outcome}

theorem runs_other_iff : Runs (.mk .other d cs l) u o ↔
    u = [.visit (Statement.mk .other d cs l).label] ∧ o = .next := by
  constructor
  · rintro ⟨⟩
    exact ⟨rfl, rfl⟩
  · rintro ⟨rfl, rfl⟩
    exact .other

theorem runs_ret_iff : Runs (.mk .ret d cs l) u o ↔
    u = [.visit (Statement.mk .ret d cs l).label] ∧ o = .ret := by
  constructor
  · rintro ⟨⟩
    exact ⟨rfl, rfl⟩
  · rintro ⟨rfl, rfl⟩
    exact .ret

theorem runs_breakOut_iff : Runs (.mk .breakOut d cs l) u o ↔ u = [] ∧ o = .breakOut := by
  constructor
  · rintro ⟨⟩
    exact ⟨rfl, rfl⟩
  · rintro ⟨rfl, rfl⟩
    exact .breakOut

theorem runs_continueLoop_iff :
    Runs (.mk .continueLoop d cs l) u o ↔ u = [] ∧ o = .continueLoop := by
  constructor
  · rintro ⟨⟩
    exact ⟨rfl, rfl⟩
  · rintro ⟨rfl, rfl⟩
    exact .continueLoop

theorem runs_cond_iff : Runs (.mk .cond d (some c :: some b :: rest) l) u o ↔
    (∃ v, u = .choice c.label .whenTrue :: v ∧ Runs b v o) ∨
      u = [.choice c.label .whenFalse] ∧ o = .next := by
  constructor
  · intro h
    cases h with
    | condTrue h => exact Or.inl ⟨_, rfl, h⟩
    | condFalse => exact Or.inr ⟨rfl, rfl⟩
  · rintro (⟨v, rfl, h⟩ | ⟨rfl, rfl⟩)
    · exact .condTrue h
    · exact .condFalse

theorem runs_whileLoop_iff :
    Runs (.mk .whileLoop d (some c :: some b :: rest) l) u o ↔ Loops c.label [] b u o := by
  constructor
  · intro h
    cases h with
    | whileLoop h => exact h
  · exact .whileLoop

theorem runs_forLoop_iff :
    Runs (.mk .forLoop d (some i :: some c :: some p :: some b :: rest) l) u o ↔
      ∃ v, u = .visit i.label :: v ∧ Loops c.label [.visit p.label] b v o := by
  constructor
  · intro h
    cases h with
    | forLoop h => exact ⟨_, rfl, h⟩
  · rintro ⟨v, rfl, h⟩
    exact .forLoop h

theorem runs_compound_iff : Runs (.mk .compound d (ss.map some) l) u o ↔ RunsAll ss u o := by
  constructor
  · intro h
    cases h with
    | compound hss h =>
      rw [List.map_inj_right fun _ _ h => Option.some.inj h] at hss
      rwa [hss]
  · exact .compound rfl

theorem runsAll_nil_iff : RunsAll [] u o ↔ u = [] ∧ o = .next := by
  constructor
  · rintro ⟨⟩
    exact ⟨rfl, rfl⟩
  · rintro ⟨rfl, rfl⟩
    exact .nil

theorem runsAll_cons_iff : RunsAll (s :: ss) u o ↔
    (∃ v w, u = v ++ w ∧ Runs s v .next ∧ RunsAll ss w o) ∨ Runs s u o ∧ o ≠ .next := by
  constructor
  · intro h
    cases h with
    | cons hs hss => exact Or.inl ⟨_, _, rfl, hs, hss⟩
    | leave hs ho => exact Or.inr ⟨hs, ho⟩
  · rintro (⟨v, w, rfl, hs, hss⟩ | ⟨hs, ho⟩)
    · exact .cons hs hss
    · exact .leave hs ho

end Inversion

/-! ## Graphs -/

/-- What control emits as it leaves a node by a branch. -/
def Node.events (n : Node) (branch : Branch) : List Event :=
  match n.kind with
  | .start | .implicitReturn => []
  | .statement | .ret => [.visit n.description]
  | .conditionalGoto => [.choice n.description branch]

namespace Graph

/-- Some finite path from the node to a return, explicit or implicit, emits the trace. A return emits its label
as the path ends. -/
inductive Finishes (g : Graph) : NodeId → List Event → Prop where
  | stop {n : NodeId} {node : Node} : g.nodes[n]? = some node →
      node.kind = .ret ∨ node.kind = .implicitReturn → Finishes g n (node.events .sequential)
  | step {e : Edge} {node : Node} {u : List Event} : e ∈ g.edges → g.nodes[e.src]? = some node →
      Finishes g e.dst u → Finishes g e.src (node.events e.branch ++ u)

variable {g : Graph} {n : NodeId} {node : Node} {u : List Event}

/-- A path ends at a return or goes on along an edge. -/
theorem finishes_iff (hg : g.Linked) (hnode : g.nodes[n]? = some node) :
    g.Finishes n u ↔
      (node.kind = .ret ∨ node.kind = .implicitReturn) ∧ u = node.events .sequential ∨
        ∃ e ∈ g.leaving n, ∃ v, u = node.events e.branch ++ v ∧ g.Finishes e.dst v := by
  constructor
  · intro h
    cases h with
    | stop h hkind =>
      cases hnode.symm.trans h
      exact Or.inl ⟨hkind, rfl⟩
    | step he h hrest =>
      cases hnode.symm.trans h
      exact Or.inr ⟨_, hg.mem_leaving.2 ⟨he, rfl⟩, _, rfl, hrest⟩
  · rintro (⟨hkind, rfl⟩ | ⟨e, he, v, rfl, hrest⟩)
    · exact .stop hnode hkind
    · obtain ⟨hedge, rfl⟩ := hg.mem_leaving.1 he
      exact .step hedge hnode hrest

variable {d : String} {l : Option SourceSpan} {next entry : NodeId}

theorem finishes_ret_iff (hg : g.Linked) (hnode : g.nodes[n]? = some ⟨n, .ret, d, l⟩)
    (hleaving : g.leaving n = []) : g.Finishes n u ↔ u = [.visit d] := by
  simp [finishes_iff hg hnode, hleaving, Node.events]

theorem finishes_implicitReturn_iff (hg : g.Linked) (hnode : g.nodes[n]? = some ⟨n, .implicitReturn, d, l⟩)
    (hleaving : g.leaving n = []) : g.Finishes n u ↔ u = [] := by
  simp [finishes_iff hg hnode, hleaving, Node.events]

theorem finishes_start_iff (hg : g.Linked) (hnode : g.nodes[n]? = some ⟨n, .start, d, l⟩)
    (hleaving : g.leaving n = [⟨n, next, .sequential⟩]) : g.Finishes n u ↔ g.Finishes next u := by
  simp [finishes_iff hg hnode, hleaving, Node.events]

theorem finishes_statement_iff (hg : g.Linked) (hnode : g.nodes[n]? = some ⟨n, .statement, d, l⟩)
    (hleaving : g.leaving n = [⟨n, next, .sequential⟩]) :
    g.Finishes n u ↔ ∃ v, u = .visit d :: v ∧ g.Finishes next v := by
  simp [finishes_iff hg hnode, hleaving, Node.events]

theorem finishes_choice_iff (hg : g.Linked) (hnode : g.nodes[n]? = some ⟨n, .conditionalGoto, d, l⟩)
    (hleaving : g.leaving n = [⟨n, entry, .whenTrue⟩, ⟨n, next, .whenFalse⟩]) :
    g.Finishes n u ↔ (∃ v, u = .choice d .whenTrue :: v ∧ g.Finishes entry v) ∨
      ∃ v, u = .choice d .whenFalse :: v ∧ g.Finishes next v := by
  simp [finishes_iff hg hnode, hleaving, Node.events]

end Graph

end LoanCheck.Flow

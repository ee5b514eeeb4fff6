import LoanCheck.Proofs.Flow.Faults
import LoanCheck.Proofs.Flow.Shape

/-!
# Parts of flow graphs

A statement list adds the same to every graph it is drawn into. What it adds is its `Part` : nodes numbered from 0,
and wires, which are edges that lead to a point of the part or to a target, known only by its role (`Port`).
`Part.Adds` puts a part into a graph : its points are numbered from the first free number on, and the roles become the
targets at hand.

`part` reads the part off the statements. A statement inside another one is a part inside another part, with some
points before its own and with ports of the outer part as its targets (`Site`). That every drawing adds the part goes
by induction over `Draws` (`Draws.adds_part`), and all that its cases share is `Part.Adds.within` : what the inner part
adds, the outer part says in its own numbers. Every part is numbered from 0 and refers to its own points and to targets
only (`sitsAt_part`), and `pointCount` is the number of its points.

A list is drawn from its last statement on, so the points of a list come before those of the statements in front of it.
A part can be added in one way only, so they have the same numbers whatever stands in front.
-/

namespace LoanCheck.Flow

/-! ## Parts -/

/-- Where an edge of a part leads. -/
inductive Port where
  /-- To a point of the part, counted from its first. -/
  | own (k : Nat)
  | next
  | breakTo
  | continueTo
deriving DecidableEq, Repr

/-- The point that a port stands for, if the part has the targets and its points are numbered from `base` on. -/
def Port.point? (t : Targets) (base : Nat) : Port → Option NodeId
  | own k => some (base + k)
  | next => some t.next
  | breakTo => t.breakTo
  | continueTo => t.continueTo

@[simp] theorem Port.point?_own (t : Targets) (base k : Nat) : (own k).point? t base = some (base + k) :=
  rfl

@[simp] theorem Port.point?_next (t : Targets) (base : Nat) : next.point? t base = some t.next :=
  rfl

/-- An edge of a part. -/
structure Wire where
  /-- The point of the part that the edge leaves. -/
  src : Nat
  dst : Port
  branch : Branch
deriving DecidableEq, Repr

/-- The edge that a wire stands for, if it leads anywhere. -/
def Wire.edge? (t : Targets) (base : Nat) (w : Wire) : Option Edge :=
  (w.dst.point? t base).map fun dst => ⟨base + w.src, dst, w.branch⟩

/-- The node, with its number moved. -/
def Node.shift (base : Nat) (n : Node) : Node :=
  { n with id := base + n.id }

/-- What statements add to a graph, apart from where they are drawn. -/
structure Part where
  /-- Numbered from 0. -/
  nodes : List Node
  wires : List Wire
  entry : Port
deriving DecidableEq, Repr

/-- Drawing from `g` to the entry point `e` and `g'` adds the part, with its points numbered from `base` on. -/
structure Part.Adds (p : Part) (t : Targets) (base : Nat) (g : Graph) (e : NodeId) (g' : Graph) : Prop where
  nodes : g'.nodes.toList = g.nodes.toList ++ p.nodes.map (·.shift base)
  edges : g'.edges.toList.map some = g.edges.toList.map some ++ p.wires.map (·.edge? t base)
  entry : p.entry.point? t base = some e

/-! ## Parts inside parts -/

/-- How a part lies in another one : how many points of the other come before its own, and which ports of the other its
targets are. -/
structure Site where
  offset : Nat
  next : Port
  breakTo : Port
  continueTo : Port

namespace Site

/-- `break` and `continue` lead where they lead around the part. -/
def plain (offset : Nat) (after : Port) : Site :=
  ⟨offset, after, .breakTo, .continueTo⟩

/-- The body of a loop. Its end and `continue` lead to a point of the loop, and `break` leads behind the loop. -/
def loop (offset again : Nat) : Site :=
  ⟨offset, .own again, .next, .own again⟩

/-- The site gives the inner part the targets `t'`, if the outer part has the targets `t` and begins at `base`. -/
structure Fits (site : Site) (t : Targets) (base : Nat) (t' : Targets) : Prop where
  next : site.next.point? t base = some t'.next
  breakTo : site.breakTo.point? t base = t'.breakTo
  continueTo : site.continueTo.point? t base = t'.continueTo

theorem fits_plain {t : Targets} {base offset : Nat} {port : Port} {next : NodeId}
    (h : port.point? t base = some next) : (plain offset port).Fits t base { t with next } :=
  ⟨h, rfl, rfl⟩

theorem fits_loop (t : Targets) (base offset again : Nat) :
    (loop offset again).Fits t base ⟨base + again, some t.next, some (base + again)⟩ :=
  ⟨rfl, rfl, rfl⟩

end Site

/-- A port of the inner part, as a port of the outer one. -/
def Port.within (site : Site) : Port → Port
  | own k => own (site.offset + k)
  | next => site.next
  | breakTo => site.breakTo
  | continueTo => site.continueTo

def Wire.within (site : Site) (w : Wire) : Wire :=
  ⟨site.offset + w.src, w.dst.within site, w.branch⟩

/-- What the inner part adds, in the numbers and ports of the outer one. -/
def Part.within (site : Site) (p : Part) : Part where
  nodes := p.nodes.map (·.shift site.offset)
  wires := p.wires.map (·.within site)
  entry := p.entry.within site

theorem Node.shift_shift (base offset : Nat) (n : Node) :
    (n.shift offset).shift base = n.shift (base + offset) := by
  simp only [shift, Nat.add_assoc]

section Within

variable {site : Site} {t t' : Targets} {base : Nat}

theorem Port.point?_within (h : site.Fits t base t') (port : Port) :
    (port.within site).point? t base = port.point? t' (base + site.offset) := by
  cases port with
  | own k => simp only [within, point?, Nat.add_assoc]
  | next => exact h.next
  | breakTo => exact h.breakTo
  | continueTo => exact h.continueTo

theorem Wire.edge?_within (h : site.Fits t base t') (w : Wire) :
    (w.within site).edge? t base = w.edge? t' (base + site.offset) := by
  simp only [edge?, within, Port.point?_within h, Nat.add_assoc]

/-- What an inner part adds where its points begin, it adds as a part of the outer one where that begins. -/
theorem Part.Adds.within {p : Part} {g g' : Graph} {e : NodeId}
    (h : p.Adds t' (base + site.offset) g e g') (hsite : site.Fits t base t') :
    (p.within site).Adds t base g e g' where
  nodes := by simpa [Part.within, Function.comp_def, Node.shift_shift] using h.nodes
  edges := by simpa [Part.within, Function.comp_def, Wire.edge?_within hsite] using h.edges
  entry := (Port.point?_within hsite _).trans h.entry

end Within

/-! ## The part of a statement -/

namespace Part

/-- Nothing but a way to go on. -/
def jump (port : Port) : Part :=
  ⟨[], [], port⟩

/-- A condition in front of a body, which has its points after the condition. -/
def choice (label : String) (location : Option SourceSpan) (body : Part) : Part where
  nodes := ⟨0, .conditionalGoto, label, location⟩ :: body.nodes
  wires := body.wires ++ [⟨0, body.entry, .whenTrue⟩, ⟨0, .next, .whenFalse⟩]
  entry := .own 0

/-- The clauses of a counted loop in front of its body. -/
def counted (init increment condition : Statement) (body : Part) : Part where
  nodes := ⟨0, .statement, init.label, init.location⟩ :: ⟨1, .statement, increment.label, increment.location⟩ ::
    ⟨2, .conditionalGoto, condition.label, condition.location⟩ :: body.nodes
  wires := body.wires ++ [⟨1, .own 2, .sequential⟩, ⟨0, .own 2, .sequential⟩, ⟨2, body.entry, .whenTrue⟩,
    ⟨2, .next, .whenFalse⟩]
  entry := .own 0

/-- A part in front of another one that is there already. -/
def inFront (first rest : Part) : Part where
  nodes := rest.nodes ++ first.nodes
  wires := rest.wires ++ first.wires
  entry := first.entry

end Part

mutual

/-- What drawing a statement adds. -/
def part : Statement → Part
  | .mk kind description children location =>
    let self := Statement.mk kind description children location
    match kind, children with
    | .ret, _ => ⟨[⟨0, .ret, self.label, location⟩], [], .own 0⟩
    | .breakOut, _ => .jump .breakTo
    | .continueLoop, _ => .jump .continueTo
    | .cond, some condition :: some body :: _ =>
      .choice condition.label location ((part body).within (.plain 1 .next))
    | .whileLoop, some condition :: some body :: _ =>
      .choice condition.label condition.location ((part body).within (.loop 1 0))
    | .forLoop, some init :: some condition :: some increment :: some body :: _ =>
      .counted init increment condition ((part body).within (.loop 3 1))
    | .compound, entries => partAll entries
    | .other, _ => ⟨[⟨0, .statement, self.label, location⟩], [⟨0, .next, .sequential⟩], .own 0⟩
    | _, _ => .jump .next
termination_by structural s => s

/-- What drawing a list adds. The points of the last statement come first. -/
def partAll : List (Option Statement) → Part
  | [] => .jump .next
  | none :: rest => partAll rest
  | some s :: rest =>
    ((part s).within (.plain (partAll rest).nodes.length (partAll rest).entry)).inFront (partAll rest)
termination_by structural l => l

end

/-! ## Adding a part -/

namespace Graph

/-- Adding edges one after another. -/
def addEdges (g : Graph) (edges : List Edge) : Graph :=
  edges.foldl (fun g e => g.addEdge e.src e.dst e.branch) g

theorem nodes_addEdges (g : Graph) (edges : List Edge) : (g.addEdges edges).nodes = g.nodes := by
  induction edges generalizing g with
  | nil => rfl
  | cons e edges ih => exact ih (g.addEdge e.src e.dst e.branch)

theorem edges_addEdges (g : Graph) (edges : List Edge) : (g.addEdges edges).edges = g.edges ++ edges := by
  induction edges generalizing g with
  | nil => exact (Array.appendList_nil).symm
  | cons e edges ih => exact (ih (g.addEdge e.src e.dst e.branch)).trans (Array.appendList_cons ..).symm

/-- A node can be added before the edges instead of behind them. -/
theorem addNode_addEdges (g : Graph) (edges : List Edge) (kind : NodeKind) (description : String)
    (location : Option SourceSpan) : ((g.addEdges edges).addNode kind description location).2 =
      (g.addNode kind description location).2.addEdges edges := by
  induction edges generalizing g with
  | nil => rfl
  | cons e edges ih => exact ih (g.addEdge e.src e.dst e.branch)

/-- A graph grows by some nodes and then some edges, in whatever order they were added. -/
theorem Grows.exists_eq {g g' : Graph} (h : g.Grows g') : ∃ (nodes : List Node) (edges : List Edge),
    g' = addEdges { g with nodes := g.nodes ++ nodes } edges := by
  induction h with
  | refl => exact ⟨[], [], by rw [Array.appendList_nil]; rfl⟩
  | addNode _ kind description location ih =>
    obtain ⟨nodes, edges, rfl⟩ := ih
    refine ⟨nodes ++ [⟨(g.nodes ++ nodes).size, kind, description, location⟩], edges, ?_⟩
    have hpush (n : Node) : g.nodes ++ (nodes ++ [n]) = (g.nodes ++ nodes).push n :=
      Array.toList_inj.1 (by simp)
    rw [addNode_addEdges, hpush]
    rfl
  | addEdge _ src dst branch ih =>
    obtain ⟨nodes, edges, rfl⟩ := ih
    refine ⟨nodes, edges ++ [⟨src, dst, branch⟩], ?_⟩
    rw [addEdges, addEdges, List.foldl_append]
    rfl

end Graph

namespace Part.Adds

variable {p q : Part} {t : Targets} {base : Nat} {g g₁ g' : Graph} {e e₁ : NodeId}

theorem jump {port : Port} (h : port.point? t base = some e) : (Part.jump port).Adds t base g e g where
  nodes := by simp [Part.jump]
  edges := by simp [Part.jump]
  entry := h

theorem choice {d : String} {l : Option SourceSpan}
    (h : p.Adds t g.nodes.size (g.addNode .conditionalGoto d l).2 e g') :
    (Part.choice d l p).Adds t g.nodes.size g g.nodes.size
      ((g'.addEdge g.nodes.size e .whenTrue).addEdge g.nodes.size t.next .whenFalse) where
  nodes := by simp [h.nodes, Part.choice, Graph.addNode, Node.shift]
  edges := by simp [h.edges, h.entry, Part.choice, Graph.addNode, Graph.addEdge, Wire.edge?]
  entry := rfl

theorem counted {i c s : Statement}
    (h : p.Adds t g.nodes.size (((g.addNode .statement i.label i.location).2.addNode .statement s.label
      s.location).2.addNode .conditionalGoto c.label c.location).2 e g') :
    (Part.counted i s c p).Adds t g.nodes.size g g.nodes.size
      ((((g'.addEdge (g.nodes.size + 1) (g.nodes.size + 2) .sequential).addEdge g.nodes.size
        (g.nodes.size + 2) .sequential).addEdge (g.nodes.size + 2) e .whenTrue).addEdge
          (g.nodes.size + 2) t.next .whenFalse) where
  nodes := by simp [h.nodes, Part.counted, Graph.addNode, Node.shift]
  edges := by simp [h.edges, h.entry, Part.counted, Graph.addNode, Graph.addEdge, Wire.edge?]
  entry := rfl

theorem inFront (hq : q.Adds t base g e g₁) (hp : p.Adds t base g₁ e₁ g') :
    (p.inFront q).Adds t base g e₁ g' where
  nodes := by simp [hp.nodes, hq.nodes, Part.inFront]
  edges := by simp [hp.edges, hq.edges, Part.inFront]
  entry := hp.entry

theorem size_nodes (h : p.Adds t base g e g') : g'.nodes.size = g.nodes.size + p.nodes.length := by
  have hlength := congrArg List.length h.nodes
  simpa using hlength

theorem size_edges (h : p.Adds t base g e g') : g'.edges.size = g.edges.size + p.wires.length := by
  have hlength := congrArg List.length h.edges
  simpa using hlength

/-- Adding a part puts its nodes and edges behind those that are there. -/
theorem exists_edges (h : p.Adds t base g e g') (hgrows : g.Grows g') : ∃ edges : List Edge,
    edges.map some = p.wires.map (·.edge? t base) ∧
      g' = Graph.addEdges { g with nodes := g.nodes ++ p.nodes.map (·.shift base) } edges := by
  obtain ⟨nodes, edges, rfl⟩ := hgrows.exists_eq
  have hnodes := h.nodes
  have hedges := h.edges
  rw [Graph.nodes_addEdges, Array.toList_appendList, List.append_cancel_left_eq] at hnodes
  rw [Graph.edges_addEdges, Array.toList_appendList, List.map_append, List.append_cancel_left_eq] at hedges
  exact ⟨edges, hedges, by rw [hnodes]⟩

/-- A part can be added in one way only. -/
theorem unique (h : p.Adds t base g e g') (hgrows : g.Grows g') (h₁ : p.Adds t base g e₁ g₁)
    (hgrows₁ : g.Grows g₁) : e = e₁ ∧ g' = g₁ := by
  obtain ⟨edges, hwires, rfl⟩ := h.exists_edges hgrows
  obtain ⟨edges₁, hwires₁, rfl⟩ := h₁.exists_edges hgrows₁
  obtain rfl : edges = edges₁ :=
    (List.map_inj_right fun _ _ h => Option.some.inj h).1 (hwires.trans hwires₁.symm)
  exact ⟨Option.some.inj (h.entry.symm.trans h₁.entry), rfl⟩

end Part.Adds

mutual

/-- Drawing a statement adds its part. -/
theorem Draws.adds_part {s : Statement} {t : Targets} {g g' : Graph} {e : NodeId} :
    Draws s t g e g' → (part s).Adds t g.nodes.size g e g'
  | .ret => ⟨by simp [part, Graph.addNode, Node.shift], by simp [part, Graph.addNode], rfl⟩
  | .breakOut ht => .jump ht
  | .continueLoop ht => .jump ht
  | .other =>
    ⟨by simp [part, Graph.addNode, Node.shift], by simp [part, Graph.addNode, Graph.addEdge, Wire.edge?], rfl⟩
  | .cond h => by
    have hbody := h.adds_part
    rw [Graph.size_addNode] at hbody
    exact .choice (hbody.within (Site.fits_plain (Port.point?_next t _)))
  | .whileLoop h => by
    have hbody := h.adds_part
    rw [Graph.size_addNode] at hbody
    exact .choice (hbody.within (Site.fits_loop t _ _ 0))
  | .forLoop h => by
    have hbody := h.adds_part
    simp only [Graph.size_addNode] at hbody
    exact .counted (hbody.within (Site.fits_loop t _ _ 1))
  | .compound hss h => by
    subst hss
    exact h.adds_partAll

theorem DrawsAll.adds_partAll {ss : List Statement} {t : Targets} {g g' : Graph} {e : NodeId} :
    DrawsAll ss t g e g' → (partAll (ss.map some)).Adds t g.nodes.size g e g'
  | .nil => .jump rfl
  | .cons hall h => by
    -- the points of the list behind are there already, and its entry is what comes next
    have hrest := hall.adds_partAll
    have hfirst := h.adds_part
    rw [hrest.size_nodes] at hfirst
    exact hrest.inFront (hfirst.within (Site.fits_plain hrest.entry))

end

theorem DrawsAll.unique {ss : List Statement} {t : Targets} {g g₁ g₂ : Graph} {e₁ e₂ : NodeId}
    (h₁ : DrawsAll ss t g e₁ g₁) (h₂ : DrawsAll ss t g e₂ g₂) : e₁ = e₂ ∧ g₁ = g₂ :=
  h₁.adds_partAll.unique h₁.graph_grows h₂.adds_partAll h₂.graph_grows

/-! ## What a part refers to -/

/-- A target, or a point before the `n`-th. -/
def Port.Below (n : Nat) : Port → Prop
  | own k => k < n
  | next | breakTo | continueTo => True

def Wire.Below (n : Nat) (w : Wire) : Prop :=
  w.src < n ∧ w.dst.Below n

/-- The nodes of the part are numbered from `n` on, and no wire or entry of it knows a point after them. -/
structure Part.SitsAt (p : Part) (n : Nat) : Prop where
  ids : p.nodes.map (·.id) = List.range' n p.nodes.length
  wires : ∀ w ∈ p.wires, w.Below (p.nodes.length + n)
  entry : p.entry.Below (p.nodes.length + n)

/-- The targets that the site gives come before the part. -/
structure Site.Closed (site : Site) : Prop where
  next : site.next.Below site.offset
  breakTo : site.breakTo.Below site.offset
  continueTo : site.continueTo.Below site.offset

theorem Site.closed_plain {offset : Nat} {after : Port} (h : after.Below offset) : (plain offset after).Closed :=
  ⟨h, trivial, trivial⟩

theorem Site.closed_loop {offset again : Nat} (h : again < offset) : (loop offset again).Closed :=
  ⟨h, trivial, h⟩

theorem Port.Below.mono {m n : Nat} {port : Port} (h : port.Below m) (hle : m ≤ n) : port.Below n := by
  cases port with
  | own k => exact Nat.lt_of_lt_of_le h hle
  | next | breakTo | continueTo => exact trivial

theorem Wire.Below.mono {m n : Nat} {w : Wire} (h : w.Below m) (hle : m ≤ n) : w.Below n :=
  ⟨Nat.lt_of_lt_of_le h.1 hle, h.2.mono hle⟩

theorem Port.Below.within {site : Site} {port : Port} {n : Nat} (h : port.Below n) (hsite : site.Closed) :
    (port.within site).Below (n + site.offset) := by
  have hle : site.offset ≤ n + site.offset := Nat.le_add_left _ _
  cases port with
  | own k =>
    rw [Nat.add_comm n]
    exact Nat.add_lt_add_left h site.offset
  | next => exact hsite.next.mono hle
  | breakTo => exact hsite.breakTo.mono hle
  | continueTo => exact hsite.continueTo.mono hle

namespace Part.SitsAt

variable {p q : Part} {site : Site}

theorem jump {port : Port} (h : port.Below 0) : (Part.jump port).SitsAt 0 :=
  ⟨rfl, nofun, h⟩

theorem within (h : p.SitsAt 0) (hsite : site.Closed) : (p.within site).SitsAt site.offset := by
  have hlength : (p.within site).nodes.length = p.nodes.length := List.length_map _
  constructor
  · have hids : (p.within site).nodes.map (·.id) = (p.nodes.map (·.id)).map (site.offset + ·) := by
      simp [Part.within, Node.shift]
    rw [hids, h.ids, List.map_add_range', hlength, Nat.add_zero]
  · rw [hlength]
    intro _ hmem
    obtain ⟨w, hw, rfl⟩ := List.mem_map.1 hmem
    obtain ⟨hsrc, hdst⟩ := h.wires w hw
    rw [Nat.add_zero] at hsrc hdst
    refine ⟨?_, hdst.within hsite⟩
    rw [Nat.add_comm]
    exact Nat.add_lt_add_left hsrc site.offset
  · rw [hlength]
    exact h.entry.within hsite

theorem choice {d : String} {l : Option SourceSpan} (h : p.SitsAt 1) : (Part.choice d l p).SitsAt 0 where
  ids := by simp [Part.choice, h.ids, List.range'_succ]
  wires w hw := by
    simp only [Part.choice, List.mem_append, List.mem_cons, List.not_mem_nil, or_false] at hw
    rcases hw with hw | rfl | rfl
    · exact h.wires w hw
    · exact ⟨Nat.succ_pos _, h.entry⟩
    · exact ⟨Nat.succ_pos _, trivial⟩
  entry := Nat.succ_pos _

theorem counted {i c s : Statement} (h : p.SitsAt 3) : (Part.counted i s c p).SitsAt 0 where
  ids := by simp [Part.counted, h.ids, List.range'_succ]
  wires w hw := by
    have hclause (k : Nat) (hk : k < 3) : k < p.nodes.length + 3 := Nat.lt_add_left _ hk
    simp only [Part.counted, List.mem_append, List.mem_cons, List.not_mem_nil, or_false] at hw
    rcases hw with hw | rfl | rfl | rfl | rfl
    · exact h.wires w hw
    · exact ⟨hclause 1 (by decide), hclause 2 (by decide)⟩
    · exact ⟨hclause 0 (by decide), hclause 2 (by decide)⟩
    · exact ⟨hclause 2 (by decide), h.entry⟩
    · exact ⟨hclause 2 (by decide), trivial⟩
  entry := Nat.succ_pos _

theorem inFront (hq : q.SitsAt 0) (hp : p.SitsAt q.nodes.length) : (p.inFront q).SitsAt 0 := by
  have hlength : (p.inFront q).nodes.length = q.nodes.length + p.nodes.length := List.length_append
  have hle : p.nodes.length + q.nodes.length ≤ (p.inFront q).nodes.length + 0 := by omega
  refine ⟨?_, fun w hw => ?_, hp.entry.mono hle⟩
  · rw [hlength, ← List.range'_append_1, Nat.zero_add, ← hq.ids, ← hp.ids]
    exact List.map_append
  · rcases List.mem_append.1 hw with hw | hw
    · exact (hq.wires w hw).mono (by omega)
    · exact (hp.wires w hw).mono hle

end Part.SitsAt

mutual

theorem sitsAt_part : ∀ s, (part s).SitsAt 0
  | .mk kind d cs l => by
    cases kind with
    | ret => exact ⟨rfl, nofun, Nat.zero_lt_one⟩
    | other => exact ⟨rfl, by simp [part, Wire.Below, Port.Below], Nat.zero_lt_one⟩
    | breakOut | continueLoop | unsupported => exact .jump trivial
    | cond =>
      rcases cs with _ | ⟨_ | c, _ | ⟨_ | b, rest⟩⟩
      case cons.some.cons.some => exact .choice ((sitsAt_part b).within (Site.closed_plain trivial))
      all_goals exact .jump trivial
    | whileLoop =>
      rcases cs with _ | ⟨_ | c, _ | ⟨_ | b, rest⟩⟩
      case cons.some.cons.some => exact .choice ((sitsAt_part b).within (Site.closed_loop (by decide)))
      all_goals exact .jump trivial
    | forLoop =>
      rcases cs with _ | ⟨_ | i, _ | ⟨_ | c, _ | ⟨_ | p, _ | ⟨_ | b, rest⟩⟩⟩⟩
      case cons.some.cons.some.cons.some.cons.some =>
        exact .counted ((sitsAt_part b).within (Site.closed_loop (by decide)))
      all_goals exact .jump trivial
    | compound => exact sitsAt_partAll cs

/-- A part is numbered from 0, its wires leave its own points, and its ports are its own points or targets. -/
theorem sitsAt_partAll : ∀ cs, (partAll cs).SitsAt 0
  | [] => .jump trivial
  | none :: cs => sitsAt_partAll cs
  | some s :: cs => by
    have hrest := sitsAt_partAll cs
    exact hrest.inFront ((sitsAt_part s).within (Site.closed_plain hrest.entry))

end

/-! ## How large a part is -/

mutual

/-- The number of points of a statement : one for a plain statement, a return or a condition, and three for the clauses
of a counted loop. Jumps have none. -/
def pointCount : Statement → Nat
  | .mk kind _ children _ =>
    match kind, children with
    | .other, _ => 1
    | .ret, _ => 1
    | .cond, _ :: some body :: _ => 1 + pointCount body
    | .whileLoop, _ :: some body :: _ => 1 + pointCount body
    | .forLoop, _ :: _ :: _ :: some body :: _ => 3 + pointCount body
    | .compound, entries => pointCountAll entries
    | _, _ => 0
termination_by structural s => s

def pointCountAll : List (Option Statement) → Nat
  | [] => 0
  | none :: rest => pointCountAll rest
  | some s :: rest => pointCount s + pointCountAll rest
termination_by structural l => l

end

mutual

theorem Draws.size_nodes {s : Statement} {t : Targets} {g g' : Graph} {e : NodeId} :
    Draws s t g e g' → g'.nodes.size = g.nodes.size + pointCount s
  | .ret => by simp [pointCount]
  | .breakOut _ => rfl
  | .continueLoop _ => rfl
  | .other => by simp [pointCount]
  | .cond h => by
    have hbody := h.size_nodes
    simp only [pointCount, Graph.nodes_addEdge, Graph.size_addNode] at hbody ⊢
    omega
  | .whileLoop h => by
    have hbody := h.size_nodes
    simp only [pointCount, Graph.nodes_addEdge, Graph.size_addNode] at hbody ⊢
    omega
  | .forLoop h => by
    have hbody := h.size_nodes
    simp only [pointCount, Graph.nodes_addEdge, Graph.size_addNode] at hbody ⊢
    omega
  | .compound hss h => by
    subst hss
    exact h.size_nodes

theorem DrawsAll.size_nodes {ss : List Statement} {t : Targets} {g g' : Graph} {e : NodeId} :
    DrawsAll ss t g e g' → g'.nodes.size = g.nodes.size + pointCountAll (ss.map some)
  | .nil => rfl
  | .cons hall h => by
    have hrest := hall.size_nodes
    have hfirst := h.size_nodes
    rw [List.map_cons, pointCountAll]
    omega

end

namespace Part.Adds

variable {p : Part} {t : Targets} {base : Nat} {g g' : Graph} {e : NodeId}

theorem dueEdges_eq (h : p.Adds t base g e g') : g'.dueEdges = g.dueEdges +
    (p.nodes.countP (·.kind = .statement) + 2 * p.nodes.countP (·.kind = .conditionalGoto)) := by
  have hcount (kind : NodeKind) : (g'.nodesOfKind kind).length =
      (g.nodesOfKind kind).length + p.nodes.countP (·.kind = kind) := by
    simp only [Graph.nodesOfKind, h.nodes, List.filter_append, List.length_append,
      ← List.countP_eq_length_filter, List.countP_map]
    rfl
  rw [Graph.dueEdges, Graph.dueEdges, hcount, hcount]
  omega

end Part.Adds

/-! ## Statements in front of others -/

theorem DrawsAll.of_append {front ss : List Statement} {t : Targets} {g g' : Graph} {e : NodeId}
    (h : DrawsAll (front ++ ss) t g e g') :
    ∃ next g₁, DrawsAll ss t g next g₁ ∧ DrawsAll front { t with next } g₁ e g' := by
  induction front generalizing e g' with
  | nil => exact ⟨e, g', h, .nil⟩
  | cons s front ih =>
    cases h with
    | cons hall hs =>
      obtain ⟨next, g₁, hss, hfront⟩ := ih hall
      exact ⟨next, g₁, hss, .cons hfront hs⟩

/-- A function can be drawn without its first statements, and what is left has the same points as before, with the
same edges. Only the start is joined to another point. -/
theorem exists_ofStatements_of_append {front ss : List Statement} {name : Option String} {g : Graph}
    (h : (Graph.ofStatements (front ++ ss) name).outcome = .ok g) :
    ∃ g₀, (Graph.ofStatements ss name).outcome = .ok g₀ ∧ ∀ k < g₀.nodes.size,
      g.nodes[k]? = g₀.nodes[k]? ∧ (k ≠ Graph.start → g.leaving k = g₀.leaving k) := by
  have hfaultless := exists_outcome_eq_ok_iff.1 ⟨g, h⟩
  rw [List.map_append, encountersAll_append, List.findSome?_append, Option.or_eq_none_iff] at hfaultless
  obtain ⟨g₀, hg₀⟩ : ∃ g₀, (Graph.ofStatements ss name).outcome = .ok g₀ :=
    exists_outcome_eq_ok_iff.2 hfaultless.1
  refine ⟨g₀, hg₀, ?_⟩
  obtain ⟨entry, g', hdraws, rfl⟩ := drawsAll_of_ofStatements h
  obtain ⟨entry₀, g₁, hdraws₀, rfl⟩ := drawsAll_of_ofStatements hg₀
  -- with and without `front`, the list is drawn first and over the same two points
  obtain ⟨_, _, hrest, hfront⟩ := hdraws.of_append
  obtain ⟨rfl, rfl⟩ := hdraws₀.unique hrest
  intro k hk
  refine ⟨hfront.graph_extends.node k hk, fun hstart => ?_⟩
  rw [Graph.leaving_addEdge, Graph.leaving_addEdge, if_neg hstart.symm, if_neg hstart.symm]
  exact hfront.graph_extends.leaving k hk

/-- Drawing a list of statements only adds to a graph, and adds the same to every graph : the nodes and wires of the
part of the list, put behind those that are there. The part knows nothing of the graph and of the targets, so two
drawings of the list differ by the shift of the new numbers and by the targets in the place of the ports. No new edge
leaves a node that was there, the new nodes can be counted by looking at the statements, there is one new edge for each
new statement and two for each new condition, and the entry point is a target or a new point.

Hence the points of a function keep their numbers when statements are put in front of it. -/
theorem drawBlock_appends_part (ss : List Statement) :
    let p := partAll (ss.map some)
    p.SitsAt 0 ∧
    (∀ (t : Targets) (d d' : Draft) (e : NodeId), drawBlock ss t d = .ok e d' → ∃ edges : List Edge,
      d'.graph = Graph.addEdges { d.graph with
        nodes := d.graph.nodes ++ p.nodes.map (·.shift d.graph.nodes.size) } edges ∧
      d'.graph.edges = d.graph.edges ++ edges ∧
      edges.map some = p.wires.map (·.edge? t d.graph.nodes.size) ∧
      p.entry.point? t d.graph.nodes.size = some e ∧
      (∀ k < d.graph.nodes.size, d'.graph.leaving k = d.graph.leaving k) ∧
      p.nodes.length = pointCountAll (ss.map some) ∧
      edges.length =
        p.nodes.countP (·.kind = .statement) + 2 * p.nodes.countP (·.kind = .conditionalGoto) ∧
      t.Reaches d.graph d'.graph e) ∧
    ∀ (front : List Statement) (name : Option String) (g : Graph),
      (Graph.ofStatements (front ++ ss) name).outcome = .ok g →
      ∃ g₀, (Graph.ofStatements ss name).outcome = .ok g₀ ∧ ∀ k < g₀.nodes.size,
        g.nodes[k]? = g₀.nodes[k]? ∧ (k ≠ Graph.start → g.leaving k = g₀.leaving k) := by
  intro p
  refine ⟨sitsAt_partAll _, fun t d d' e h => ?_, fun _ _ _ => exists_ofStatements_of_append⟩
  have hdraws := drawsAll_of_drawBlock h
  have hadds : p.Adds t d.graph.nodes.size d.graph e d'.graph := hdraws.adds_partAll
  obtain ⟨edges, hwires, hgraph⟩ := hadds.exists_edges hdraws.graph_grows
  have hedges : d'.graph.edges = d.graph.edges ++ edges := by rw [hgraph, Graph.edges_addEdges]
  have hnodes : p.nodes.length = pointCountAll (ss.map some) :=
    Nat.add_left_cancel (hadds.size_nodes.symm.trans hdraws.size_nodes)
  have hlength : edges.length = p.wires.length := by
    simpa using congrArg List.length hwires
  have hcount := hdraws.size_edges
  rw [hadds.size_edges, hadds.dueEdges_eq, ← hlength] at hcount
  exact ⟨edges, hgraph, hedges, hwires, hadds.entry, hdraws.graph_extends.leaving, hnodes, by omega,
    hdraws.entry_reaches⟩

/-- The statements `while (more) { if (hit) continue; x = 1; } if (done) break;` as a whole function, where `break`
leads to the point that comes next, and as the body of a counted loop, where it does not. Their four points have the
same numbers in a function that has two statements more. -/
theorem drawBlock_appends_part_search :
    let plain (label : String) : Statement := .mk .other label [] none
    let hit : Statement := .mk .cond "" [some (plain "hit"), some (.mk .continueLoop "" [] none)] none
    let search : Statement := .mk .whileLoop ""
      [some (plain "more"), some (.mk .compound "" [some hit, some (plain "x = 1")] none)] none
    let leave : Statement := .mk .cond "" [some (plain "done"), some (.mk .breakOut "" [] none)] none
    let header : Graph := (((Graph.empty none).addNode .statement "i = 0" none).2.addNode .statement "i++"
      none).2.addNode .conditionalGoto "i < n" none |>.2
    let inFunction : List Edge := [⟨2, 1, .whenTrue⟩, ⟨2, 1, .whenFalse⟩, ⟨4, 3, .sequential⟩, ⟨5, 3, .whenTrue⟩,
      ⟨5, 4, .whenFalse⟩, ⟨3, 5, .whenTrue⟩, ⟨3, 2, .whenFalse⟩]
    let inLoop : List Edge := [⟨5, 1, .whenTrue⟩, ⟨5, 3, .whenFalse⟩, ⟨7, 6, .sequential⟩, ⟨8, 6, .whenTrue⟩,
      ⟨8, 7, .whenFalse⟩, ⟨6, 8, .whenTrue⟩, ⟨6, 5, .whenFalse⟩]
    let p := partAll [some search, some leave]
    p.SitsAt 0 ∧ p.nodes.length = 4 ∧
    (∃ d, drawBlock [search, leave] .ofFunction ⟨Graph.empty none, #[]⟩ = .ok 3 d ∧
      d.graph.edges.toList = inFunction ∧ inFunction.map some = p.wires.map (·.edge? .ofFunction 2)) ∧
    (∃ d, drawBlock [search, leave] ⟨3, some 1, some 3⟩ ⟨header, #[]⟩ = .ok 6 d ∧
      d.graph.edges.toList = inLoop ∧ inLoop.map some = p.wires.map (·.edge? ⟨3, some 1, some 3⟩ 5)) ∧
    ∃ g g₀, (Graph.ofStatements [plain "a", plain "b", search, leave] none).outcome = .ok g ∧
      (Graph.ofStatements [search, leave] none).outcome = .ok g₀ ∧ g₀.nodes.size = 6 ∧
      ∀ k < 6, g.nodes[k]? = g₀.nodes[k]? := by
  intro plain hit search leave header inFunction inLoop p
  obtain ⟨hp, hdraw, hfront⟩ := drawBlock_appends_part [search, leave]
  obtain ⟨d, hrun, hedges⟩ : ∃ d, drawBlock [search, leave] .ofFunction ⟨Graph.empty none, #[]⟩ = .ok 3 d ∧
      d.graph.edges.toList = inFunction := ⟨_, rfl, rfl⟩
  obtain ⟨d', hrun', hedges'⟩ : ∃ d, drawBlock [search, leave] ⟨3, some 1, some 3⟩ ⟨header, #[]⟩ = .ok 6 d ∧
      d.graph.edges.toList = inLoop := ⟨_, rfl, rfl⟩
  obtain ⟨edges, -, hgraph, hwires, -, -, hnodes, -⟩ := hdraw _ _ d 3 hrun
  obtain ⟨edges', -, hgraph', hwires', -⟩ := hdraw _ _ d' 6 hrun'
  obtain ⟨g, hg⟩ : ∃ g, (Graph.ofStatements ([plain "a", plain "b"] ++ [search, leave]) none).outcome = .ok g :=
    exists_outcome_eq_ok_iff.2 rfl
  obtain ⟨g₁, hg₁, hsize⟩ : ∃ g₁, (Graph.ofStatements [search, leave] none).outcome = .ok g₁ ∧
      g₁.nodes.size = 6 := ⟨_, rfl, rfl⟩
  obtain ⟨g₀, hg₀, hkeep⟩ := hfront _ none g hg
  obtain rfl := Except.ok.inj (hg₀.symm.trans hg₁)
  refine ⟨hp, hnodes, ⟨d, hrun, hedges, ?_⟩, ⟨d', hrun', hedges', ?_⟩, g, g₀, hg, hg₀, hsize,
    fun k hk => (hkeep k (hsize ▸ hk)).1⟩
  · rw [hgraph, Array.toList_appendList] at hedges
    exact (congrArg (List.map some) hedges.symm).trans hwires
  · rw [hgraph', Array.toList_appendList] at hedges'
    exact (congrArg (List.map some) hedges'.symm).trans hwires'

end LoanCheck.Flow

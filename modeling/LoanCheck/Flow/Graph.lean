import LoanCheck.Index
import LoanCheck.Statement

/-!
# Flow graphs

A flow graph has one node per program point, numbered from 0 in the order of creation, and tagged
edges in the order of creation. Point 0 is the start of the function and point 1 its implicit return.
An edge is kept in three places: in the list of all edges, with the edges that leave its source, and with
the edges that enter its target.
-/

namespace LoanCheck.Flow

/-- Number of a node. It doubles as the program point of the solver. -/
abbrev NodeId := Nat

inductive NodeKind where
  | start
  | ret
  | implicitReturn
  | statement
  /-- Two successors, told apart by the tags of the edges. -/
  | conditionalGoto
deriving DecidableEq, Repr

def NodeKind.word : NodeKind → String
  | .start => "Start"
  | .ret => "Return"
  | .implicitReturn => "ImplicitReturn"
  | .statement => "Statement"
  | .conditionalGoto => "ConditionalGoto"

/-- Tag of an edge. -/
inductive Branch where
  | sequential
  | whenTrue
  | whenFalse
deriving DecidableEq, Repr

def Branch.word : Branch → String
  | .sequential => ""
  | .whenTrue => "true"
  | .whenFalse => "false"

/-- A program point. -/
structure Node where
  id : NodeId
  kind : NodeKind
  description : String
  location : Option SourceSpan
deriving DecidableEq, Repr

/-- What a picture of the graph writes on the node. -/
def Node.label (n : Node) : String :=
  if n.kind = .statement then s!"Statement({n.description})" else n.kind.word

def Node.summary (n : Node) : String :=
  s!"CFGNode(id={n.id}, kind={Text.quoted n.kind.word}, desc={Text.quoted n.description})"

/-- A directed edge. Parallel edges are allowed. -/
structure Edge where
  src : NodeId
  dst : NodeId
  branch : Branch
deriving DecidableEq, Repr

def Edge.summary (e : Edge) : String :=
  let tag := if e.branch = .sequential then "" else ", " ++ e.branch.word
  s!"CFGEdge({e.src} -> {e.dst}{tag})"

/-- The flow graph of one function. -/
structure Graph where
  name : Option String
  nodes : Array Node
  edges : Array Edge
  /-- At each node, the edges that leave it. -/
  outgoing : Index NodeId Edge
  /-- At each node, the edges that enter it. -/
  incoming : Index NodeId Edge

namespace Graph

/-- Point 0, where control enters the function. -/
def start : NodeId := 0

/-- Point 1, reached by falling off the end of the body. -/
def implicitReturn : NodeId := 1

/-- The graph of the two synthetic points and no edge. -/
def empty (name : Option String) : Graph where
  name := name
  nodes := #[⟨start, .start, "", none⟩, ⟨implicitReturn, .implicitReturn, "", none⟩]
  edges := #[]
  outgoing := ∅
  incoming := ∅

/-- Adds a node under the next free number. -/
def addNode (g : Graph) (kind : NodeKind) (description : String) (location : Option SourceSpan) :
    NodeId × Graph :=
  (g.nodes.size, { g with nodes := g.nodes.push ⟨g.nodes.size, kind, description, location⟩ })

/-- Adds an edge to the list of all edges and to the lists at its ends. -/
def addEdge (g : Graph) (src dst : NodeId) (branch : Branch) : Graph :=
  { g with
    edges := g.edges.push ⟨src, dst, branch⟩
    outgoing := g.outgoing.push src ⟨src, dst, branch⟩
    incoming := g.incoming.push dst ⟨src, dst, branch⟩ }

/-- The node at a position. Negative positions count from the end. -/
def nodeAt? (g : Graph) (i : Int) : Option Node :=
  itemAt? g.nodes.toList i

/-- The edge at a position of the creation order. Negative positions count from the end. -/
def edgeAt? (g : Graph) (i : Int) : Option Edge :=
  itemAt? g.edges.toList i

/-- The numbers of all nodes. -/
def points (g : Graph) : List NodeId :=
  g.nodes.toList.map (·.id)

/-- The edges that leave a node, in order of creation. -/
def leaving (g : Graph) (n : NodeId) : List Edge :=
  g.outgoing.get n

/-- The edges that enter a node, in order of creation. -/
def entering (g : Graph) (n : NodeId) : List Edge :=
  g.incoming.get n

def successors (g : Graph) (n : NodeId) : List NodeId :=
  (g.leaving n).map (·.dst)

def predecessors (g : Graph) (n : NodeId) : List NodeId :=
  (g.entering n).map (·.src)

/-- The first edge between two nodes, of one tag if a tag is given. -/
def edge? (g : Graph) (src dst : NodeId) (branch : Option Branch) : Option Edge :=
  (g.leaving src).find? fun e => e.dst = dst && branch.all (· = e.branch)

def nodesOfKind (g : Graph) (kind : NodeKind) : List Node :=
  g.nodes.toList.filter (·.kind = kind)

/-- The place of a point in the source text, if the point is a node and its place is known. -/
def locationOf (g : Graph) (point : Int) : Option SourceSpan :=
  if point < 0 then none else g.nodes[point.toNat]?.bind (·.location)

/-- The name in messages about the graph. -/
def displayName (g : Graph) : String :=
  match g.name with
  | some n => if n.isEmpty then "<unknown>" else n
  | none => "<unknown>"

def summary (g : Graph) : String :=
  s!"CFG(function={Text.quoted g.displayName}, nodes={g.nodes.size}, edges={g.edges.size})"

end Graph

end LoanCheck.Flow

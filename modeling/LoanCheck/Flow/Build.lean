import LoanCheck.Flow.Graph

/-!
# Building a flow graph

A statement list is built from its last statement to its first, so the point where control goes next
exists before the statement that leads there. Loops and jumps need no later patching: the points that
`break` and `continue` lead to are handed down.

`Statement.draw` draws one statement, `drawAll` a list, and `Graph.ofStatements` a whole function. The
drawing also keeps the list of visits (which statement lists were entered, and where each of them
leads), which is what a verbose run reports; it survives a fault.
-/

namespace LoanCheck.Flow

/-- A statement list that was entered: the labels of its statements, and the point after it. -/
structure Visit where
  labels : List String
  next : NodeId
deriving DecidableEq, Repr

/-- A graph under construction. -/
structure Draft where
  graph : Graph
  visits : Array Visit

/-- Drawing steps: they extend the draft and may stop at a fault. -/
abbrev Drawing := EStateM StatementFault Draft

namespace Drawing

/-- Adds a node. -/
def node (kind : NodeKind) (description : String) (location : Option SourceSpan) :
    Drawing NodeId := do
  let d ← get
  let (id, graph) := d.graph.addNode kind description location
  set { d with graph }
  return id

/-- Adds an edge. -/
def edge (src dst : NodeId) (branch : Branch) : Drawing Unit :=
  modify fun d => { d with graph := d.graph.addEdge src dst branch }

/-- Notes that a statement list is entered. -/
def enter (labels : List String) (next : NodeId) : Drawing Unit :=
  modify fun d => { d with visits := d.visits.push ⟨labels, next⟩ }

/-- Notes that a body is entered. A compound notes its own entries when it is drawn. -/
def enterBody (body : Statement) (next : NodeId) : Drawing Unit :=
  if body.kind = .compound then pure () else enter [body.label] next

end Drawing

/-- Where control can go from a statement. -/
structure Targets where
  /-- After the statement. -/
  next : NodeId
  /-- On `break`. -/
  breakTo : Option NodeId
  /-- On `continue`; nothing outside of a loop. -/
  continueTo : Option NodeId
deriving DecidableEq, Repr

/-- Position of the first absent entry. -/
def firstAbsent? (children : List (Option Statement)) : Option Nat :=
  children.findIdx? (·.isNone)

/-- Labels of the entries that are present. -/
def entryLabels (children : List (Option Statement)) : List String :=
  children.filterMap fun c => c.map (·.label)

open Drawing in
mutual

/-- Draws a statement and returns its entry point. -/
def draw : Statement → Targets → Drawing NodeId
  | .mk kind description children location, t =>
    let self := Statement.mk kind description children location
    match kind, children with
    | .ret, _ => node .ret self.label location
    | .breakOut, _ =>
      match t.breakTo with
      | some target => pure target
      | none => throw (.strayBreak self)
    | .continueLoop, _ =>
      match t.continueTo with
      | some target => pure target
      | none => throw (.strayContinue self)
    | .cond, _ :: _ :: some _ :: _ => throw (.elseBranch self)
    | .cond, some condition :: some body :: _ => do
      let choice ← node .conditionalGoto condition.label location
      enterBody body t.next
      let entry ← draw body t
      edge choice entry .whenTrue
      edge choice t.next .whenFalse
      return choice
    | .cond, some _ :: _ => throw (.missing self "body")
    | .cond, _ => throw (.missing self "condition")
    | .forLoop, some init :: some condition :: some increment :: some body :: _ => do
      let first ← node .statement init.label init.location
      let after ← node .statement increment.label increment.location
      let choice ← node .conditionalGoto condition.label condition.location
      enterBody body after
      let entry ← draw body ⟨after, some t.next, some after⟩
      edge after choice .sequential
      edge first choice .sequential
      edge choice entry .whenTrue
      edge choice t.next .whenFalse
      return first
    | .forLoop, some _ :: some _ :: some _ :: _ => throw (.missing self "body")
    | .forLoop, some _ :: some _ :: _ => throw (.missing self "increment clause")
    | .forLoop, some _ :: _ => throw (.missing self "condition")
    | .forLoop, _ => throw (.missing self "init clause")
    | .whileLoop, some condition :: some body :: _ => do
      let choice ← node .conditionalGoto condition.label condition.location
      enterBody body choice
      let entry ← draw body ⟨choice, some t.next, some choice⟩
      edge choice entry .whenTrue
      edge choice t.next .whenFalse
      return choice
    | .whileLoop, some _ :: _ => throw (.missing self "body")
    | .whileLoop, _ => throw (.missing self "condition")
    | .compound, cs =>
      match firstAbsent? cs with
      | some i => throw (.missing self (Statement.entryRole i))
      | none => do
        enter (entryLabels cs) t.next
        drawAll cs t
    | .unsupported, _ => throw (.construct self)
    | .other, _ => do
      let point ← node .statement self.label location
      edge point t.next .sequential
      return point
termination_by structural s => s

/-- Draws the entries of a list from last to first, each leading to the one after it, and returns the
entry point of the first. Absent entries lead straight on. -/
def drawAll : List (Option Statement) → Targets → Drawing NodeId
  | [], t => pure t.next
  | none :: rest, t => drawAll rest t
  | some s :: rest, t => do
    let next ← drawAll rest t
    draw s { t with next }
termination_by structural l => l

end

/-- Draws a statement list and notes that it is entered. -/
def drawBlock (statements : List Statement) (t : Targets) : Drawing NodeId := do
  Drawing.enter (statements.map (·.label)) t.next
  drawAll (statements.map some) t

/-- Targets of a whole function: falling off the end, and `break` outside of a loop, lead to the
implicit return. -/
def Targets.ofFunction : Targets :=
  ⟨Graph.implicitReturn, some Graph.implicitReturn, none⟩

/-- Draws a whole function and joins the start to its entry. -/
def drawFunction (statements : List Statement) : Drawing Unit := do
  let entry ← drawBlock statements .ofFunction
  Drawing.edge Graph.start entry .sequential

/-- What comes of drawing: the graph or a fault, and the visits made up to there. -/
structure Drawn where
  outcome : Except StatementFault Graph
  visits : List Visit

/-- The flow graph of a function, with the visits. -/
def Graph.ofStatements (statements : List Statement) (name : Option String) : Drawn :=
  match drawFunction statements ⟨Graph.empty name, #[]⟩ with
  | .ok _ d => ⟨.ok d.graph, d.visits.toList⟩
  | .error e d => ⟨.error e, d.visits.toList⟩

end LoanCheck.Flow

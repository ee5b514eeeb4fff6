import LoanCheck.Flow.Graph
import LoanCheck.Text.Split

/-!
# Pictures of flow graphs

A flow graph as a DOT digraph: an optional title, one line a node, one line an edge.
-/

namespace LoanCheck.Flow

/-- Text inside a double-quoted DOT string. Backslashes come first, as the other two add some. -/
def dotEscape (s : String) : String :=
  let backslashes := Text.replaceChar s '\\' "\\\\"
  let quotes := Text.replaceChar backslashes '"' "\\\""
  Text.replaceChar quotes '\n' "\\n"

/-- Extra attributes of a node. -/
def NodeKind.dotStyle : NodeKind → String
  | .start => ", style=filled, fillcolor=\"#ccffcc\""
  | .ret | .implicitReturn => ", style=filled, fillcolor=\"#ffcccc\""
  | .conditionalGoto => ", shape=diamond"
  | .statement => ""

def Node.dotLine (n : Node) : String :=
  s!"  {n.id} [label=\"{n.id}: " ++ dotEscape n.label ++ "\"" ++ n.kind.dotStyle ++ "];"

/-- Attributes of an edge. -/
def Branch.dotStyle : Branch → String
  | .sequential => ""
  | .whenTrue => " [label=\"if true\", color=darkgreen]"
  | .whenFalse => " [label=\"if false\", color=red]"

def Edge.dotLine (e : Edge) : String :=
  s!"  {e.src} -> {e.dst}" ++ e.branch.dotStyle ++ ";"

/-- The title that is shown: the given one, else the name; an empty title counts as none. -/
def Graph.shownTitle (g : Graph) (title : Option String) : Option String :=
  (title.or g.name).filter (!·.isEmpty)

/-- The lines of the picture. -/
def Graph.dotLines (g : Graph) (title : Option String) : List String :=
  ["digraph CFG \x7b"] ++
    ((g.shownTitle title).map fun t => "  label=\"" ++ dotEscape t ++ "\";").toList ++
    ["  node [shape=box, fontname=monospace, fontsize=10];"] ++
    g.nodes.toList.map (·.dotLine) ++ g.edges.toList.map (·.dotLine) ++ ["\x7d"]

/-- The picture, without a line break at the end. -/
def Graph.toDot (g : Graph) (title : Option String) : String :=
  "\n".intercalate (g.dotLines title)

/-- Why a graph cannot be turned into an image: that takes a package which is not at hand. -/
def noPicture : String :=
  "The 'graphviz' package is required to render CFGs. " ++
    "Install it with:  pip install 'polite-c[viz]'"

end LoanCheck.Flow

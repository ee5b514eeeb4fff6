import LoanCheck.Statement

/-!
# Syntax trees

The syntax tree of a C source file, as far as the checker looks at it. A cursor stands at one node of the
tree: a function declaration, a statement or an expression.
-/

namespace LoanCheck.Syntax

/-- Kinds of cursors. Statements without control flow of their own, and expressions, are `other`. -/
inductive CursorKind where
  | function
  | compound
  | ret
  | breakOut
  | continueLoop
  | cond
  | whileLoop
  | forLoop
  | doLoop
  | switch
  | goto
  | indirectGoto
  | label
  | other (name : String)
deriving DecidableEq, Repr

namespace CursorKind

/-- Name of a kind. -/
def name : CursorKind → String
  | function => "FUNCTION_DECL"
  | compound => "COMPOUND_STMT"
  | ret => "RETURN_STMT"
  | breakOut => "BREAK_STMT"
  | continueLoop => "CONTINUE_STMT"
  | cond => "IF_STMT"
  | whileLoop => "WHILE_STMT"
  | forLoop => "FOR_STMT"
  | doLoop => "DO_STMT"
  | switch => "SWITCH_STMT"
  | goto => "GOTO_STMT"
  | indirectGoto => "INDIRECT_GOTO_STMT"
  | label => "LABEL_STMT"
  | other name => name

/-- The kinds that are told apart. -/
def known : List CursorKind :=
  [function, compound, ret, breakOut, continueLoop, cond, whileLoop, forLoop, doLoop, switch, goto,
    indirectGoto, label]

/-- The kind of a name. -/
def ofName (name : String) : CursorKind :=
  (known.find? (·.name = name)).getD (other name)

end CursorKind

/-- A stretch of a source text; builtin declarations are in no file. -/
structure Extent where
  file : Option String
  line : Int
  column : Int
  endLine : Int
  endColumn : Int
deriving DecidableEq, Repr

/-- The stretch as far as it lies on its first line. -/
def Extent.span? (e : Extent) : Option SourceSpan :=
  e.file.map fun file =>
    ⟨file, e.line, e.column, if e.endLine = e.line then e.endColumn else e.column + 1⟩

/-- Where a declaration stands. -/
structure Position where
  file : Option String := none
  line : Int := 0
  column : Int := 0
deriving DecidableEq, Repr

/-- A parameter of a function. -/
structure Parameter where
  name : String
  /-- Spelling of the type. -/
  type : String
  extent : Option Extent
deriving DecidableEq, Repr

def Parameter.location (p : Parameter) : Option SourceSpan :=
  p.extent.bind (·.span?)

/-- A node of a syntax tree with everything below it. -/
inductive Cursor where
  /-- A node has its kind, the name it declares, the words of its text, the nodes below it, its stretch
  and its position. Functions also have a flag for definitions, the definition of a declaration, the
  comment before them, and parameters. -/
  | mk (kind : CursorKind) (spelling : String) (tokens : List String) (children : List Cursor)
      (extent : Option Extent) (position : Position) (isDefinition : Bool)
      (definition : Option Cursor) (comment : Option String) (parameters : List Parameter)

namespace Cursor

def kind : Cursor → CursorKind
  | mk k _ _ _ _ _ _ _ _ _ => k

def spelling : Cursor → String
  | mk _ s _ _ _ _ _ _ _ _ => s

def tokens : Cursor → List String
  | mk _ _ t _ _ _ _ _ _ _ => t

def children : Cursor → List Cursor
  | mk _ _ _ cs _ _ _ _ _ _ => cs

def extent : Cursor → Option Extent
  | mk _ _ _ _ e _ _ _ _ _ => e

def position : Cursor → Position
  | mk _ _ _ _ _ p _ _ _ _ => p

def isDefinition : Cursor → Bool
  | mk _ _ _ _ _ _ d _ _ _ => d

/-- The definition of a declaration, if it has one. -/
def definition : Cursor → Option Cursor
  | mk _ _ _ _ _ _ _ d _ _ => d

def comment : Cursor → Option String
  | mk _ _ _ _ _ _ _ _ c _ => c

def parameters : Cursor → List Parameter
  | mk _ _ _ _ _ _ _ _ _ ps => ps

def isFunction (c : Cursor) : Bool := c.kind == .function

/-- The place of a node in the source text. -/
def location (c : Cursor) : Option SourceSpan :=
  c.extent.bind (·.span?)

mutual

/-- A node and all nodes below it, every node before those below it. -/
def preorder : Cursor → List Cursor
  | mk k s t cs e p d df c ps => mk k s t cs e p d df c ps :: preorderAll cs
termination_by structural c => c

def preorderAll : List Cursor → List Cursor
  | [] => []
  | c :: cs => c.preorder ++ preorderAll cs
termination_by structural cs => cs

end

end Cursor

/-- A message of the C parser; from `Message.error` on it is an error. -/
structure Message where
  severity : Int
  text : String
deriving DecidableEq, Repr

/-- Least severity of an error. -/
def Message.error : Int := 3

/-- A parsed source file with everything it includes. -/
structure SourceUnit where
  /-- Name of the source file. -/
  spelling : String
  /-- Declarations at the top level, those of included files among them. -/
  declarations : List Cursor
  messages : List Message := []

end LoanCheck.Syntax

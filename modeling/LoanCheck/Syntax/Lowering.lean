import LoanCheck.Syntax.Cursor
import LoanCheck.Text.Lowercase
import LoanCheck.Text.Split
import LoanCheck.Text.Titlecase

/-!
# Statements of syntax trees

Turns syntax trees into the statements that flow graphs are drawn from.

A `for` loop leaves out the nodes of clauses that are not written, so the nodes below it do not tell which
clause is which. The header tells: `forClauses` finds the two semicolons of the header outside of all
brackets, and a clause is written iff there is a word between them.
-/

namespace LoanCheck.Syntax

/-! ## Descriptions -/

/-- Longest description, in characters. -/
def maxDescription : Nat := 48

/-- A text of at most `maxDescription` characters; a longer one is cut and ends in dots. -/
def shorten (text : String) : String :=
  if maxDescription < text.length then
    String.ofList (text.toList.take (maxDescription - 3)) ++ "..."
  else text

/-- A word with a capital at its front. -/
def capitalWord (word : String) : String :=
  match word.toList with
  | [] => ""
  | c :: cs => Text.titleChar c ++ String.ofList cs

/-- The words of a name between underscores run together, each with one capital, at its front. -/
def camel (kindName : String) : String :=
  String.join ((Text.split '_' (Text.lower kindName)).map capitalWord)

/-- Drops blanks and semicolons at the end. -/
def trimEnd (cs : List Char) : List Char :=
  (cs.reverse.dropWhile fun c => c == ' ' || c == ';').reverse

/-- The text of a node in one line, or the name of its kind if it has none. -/
def Cursor.describe (c : Cursor) : String :=
  let text := String.ofList (trimEnd (" ".intercalate c.tokens).toList)
  if text.isEmpty then camel c.kind.name else shorten text

/-! ## Clauses of a loop header -/

def isOpening (token : String) : Bool := token = "(" || token = "[" || token = "\x7b"

def isClosing (token : String) : Bool := token = ")" || token = "]" || token = "\x7d"

/-- For each part between the semicolons of a header, up to the closing bracket of the header, whether it
has any words. `depth` counts the open brackets, and `written` is about the part at hand. -/
def headerParts (depth : Nat) (written : Bool) : List String → List Bool
  | [] => [written]
  | t :: ts =>
    if isOpening t then headerParts (depth + 1) true ts
    else if isClosing t then
      match depth with
      | 0 => [written]
      | d + 1 => headerParts d true ts
    else if t = ";" && depth = 0 then written :: headerParts 0 false ts
    else headerParts depth true ts

/-- The clauses of a `for` header. -/
structure Clauses where
  init : Bool
  condition : Bool
  increment : Bool
deriving DecidableEq, Repr

/-- Which clauses the words of a loop have. A header that does not have three parts counts as full. -/
def forClauses (tokens : List String) : Clauses :=
  match tokens.dropWhile (· ≠ "(") with
  | _ :: rest =>
    match headerParts 0 false rest with
    | [a, b, c] => ⟨a, b, c⟩
    | _ => ⟨true, true, true⟩
  | [] => ⟨true, true, true⟩

/-- The next node, if the clause is written, and the nodes after it. -/
def takeClause {α : Type} (written : Bool) (nodes : List α) : Option α × List α :=
  match written, nodes with
  | true, n :: rest => (some n, rest)
  | _, nodes => (none, nodes)

/-- Deals the nodes below a loop out to its three clauses and its body. -/
def Clauses.deal {α : Type} (c : Clauses) (nodes : List α) : List (Option α) :=
  let (init, nodes) := takeClause c.init nodes
  let (condition, nodes) := takeClause c.condition nodes
  let (increment, nodes) := takeClause c.increment nodes
  [init, condition, increment, nodes.head?]

/-! ## Statements -/

mutual

/-- The statement of a node. -/
def Cursor.lower : Cursor → Statement
  | .mk kind spelling tokens children extent position isDefinition definition comment parameters =>
    let location := extent.bind (·.span?)
    let below := lowerAll children
    match kind with
    | .ret => .mk .ret "ReturnStmt" [] location
    | .breakOut => .mk .breakOut "BreakStmt" [] location
    | .continueLoop => .mk .continueLoop "ContinueStmt" [] location
    | .compound => .mk .compound "CompoundStmt" (below.map some) location
    | .cond => .mk .cond "IfStmt" [below[0]?, below[1]?, below[2]?] location
    | .whileLoop => .mk .whileLoop "WhileStmt" [below[0]?, below[1]?] location
    | .forLoop => .mk .forLoop "ForStmt" ((forClauses tokens).deal below) location
    | .doLoop | .switch | .goto | .indirectGoto | .label =>
      .mk .unsupported (camel kind.name) [] location
    | .function | .other _ =>
      let c := Cursor.mk kind spelling tokens children extent position isDefinition definition comment
        parameters
      .mk .other c.describe [] location
termination_by structural c => c

/-- The statements of some nodes. -/
def lowerAll : List Cursor → List Statement
  | [] => []
  | c :: cs => c.lower :: lowerAll cs
termination_by structural cs => cs

end

/-- The statements of a function's body, if it has one. -/
def Cursor.bodyStatements? (c : Cursor) : Option (List Statement) :=
  (c.children.find? (·.kind == .compound)).map fun body => lowerAll body.children

end LoanCheck.Syntax

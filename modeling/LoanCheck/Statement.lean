import LoanCheck.Text.Quoted

/-!
# Statements

A function body as the flow graph sees it. A statement has a kind, a short description that labels its
node, positional children that may be absent, and a place in the source text. What the children of a
kind mean:

* `cond` — condition, body, else branch;
* `forLoop` — init clause, condition, increment clause, body;
* `whileLoop` — condition, body;
* `compound` — the contained statements in order.

Other kinds use no children.
-/

namespace LoanCheck

/-- A stretch of one source line. Lines and columns count from 1, the end column is exclusive. A
column 0 means that only the line is known. -/
structure SourceSpan where
  file : String := ""
  line : Int := 0
  column : Int := 0
  endColumn : Int := 0
deriving DecidableEq, Repr

/-- `file:line:column`, or `file:line` without a column. -/
def SourceSpan.render (s : SourceSpan) : String :=
  if s.column = 0 then s!"{s.file}:{s.line}" else s!"{s.file}:{s.line}:{s.column}"

/-- Kinds of statements, as far as control flow can tell them apart. -/
inductive StatementKind where
  | ret
  | breakOut
  | continueLoop
  | cond
  | forLoop
  | whileLoop
  | compound
  | unsupported
  | other
deriving DecidableEq, Repr

/-- Word that stands for the kind in messages. -/
def StatementKind.word : StatementKind → String
  | .ret => "return"
  | .breakOut => "break"
  | .continueLoop => "continue"
  | .cond => "if"
  | .forLoop => "for"
  | .whileLoop => "while"
  | .compound => "compound"
  | .unsupported => "unsupported"
  | .other => "other"

/-- A statement. An absent child keeps its position. -/
inductive Statement where
  | mk (kind : StatementKind) (description : String) (children : List (Option Statement))
      (location : Option SourceSpan)
deriving Repr

namespace Statement

def kind : Statement → StatementKind
  | mk k _ _ _ => k

def description : Statement → String
  | mk _ d _ _ => d

def children : Statement → List (Option Statement)
  | mk _ _ cs _ => cs

def location : Statement → Option SourceSpan
  | mk _ _ _ l => l

/-- The description, or the word of the kind when there is none. -/
def label (s : Statement) : String :=
  if s.description.isEmpty then s.kind.word else s.description

/-- The child at a position. Positions outside the list hold no child. -/
def child? (s : Statement) (i : Int) : Option Statement :=
  if i < 0 then none else (s.children[i.toNat]?).join

/-- One-line summary: kind, label, number of positions. -/
def summary (s : Statement) : String :=
  s!"Statement({s.kind.word}, {Text.quoted s.label}, nchildren={s.children.length})"

end Statement

/-- Why a statement has no place in a flow graph. -/
inductive StatementFault where
  /-- A child that the statement's kind calls for is absent. -/
  | missing (stmt : Statement) (role : String)
  /-- A `break` with nothing around it to leave. -/
  | strayBreak (stmt : Statement)
  /-- A `continue` outside of a loop. -/
  | strayContinue (stmt : Statement)
  /-- A conditional with an else branch. -/
  | elseBranch (stmt : Statement)
  /-- A construct that flow graphs do not model. -/
  | construct (stmt : Statement)

namespace StatementFault

/-- The statement at fault. -/
def stmt : StatementFault → Statement
  | missing s _ | strayBreak s | strayContinue s | elseBranch s | construct s => s

/-- The construct is recognised and left out on purpose, rather than malformed. -/
def isUnsupported : StatementFault → Bool
  | elseBranch _ | construct _ => true
  | _ => false

def message : StatementFault → String
  | missing s role =>
    let place := match s.location with
      | some l => " at " ++ l.render
      | none => ""
    s!"'{s.kind.word}' statement has no {role}{place}"
  | strayBreak _ => "'break' has no enclosing target"
  | strayContinue _ => "'continue' outside of a loop"
  | elseBranch _ => "'if' with an 'else' branch is not supported"
  | construct s => s!"'{s.label}' is not supported by the CFG builder"

end StatementFault

namespace Statement

/-- The child at a position that must not be empty. -/
def require (s : Statement) (i : Int) (role : String) : Except StatementFault Statement :=
  match s.child? i with
  | some c => .ok c
  | none => .error (.missing s role)

/-- What an absent entry of a compound is called. -/
def entryRole (i : Nat) : String := s!"statement #{i}"

/-- The statements of a body: the entries of a compound, none of them absent, or the one statement
that stands without braces. -/
def body (s : Statement) : Except StatementFault (List Statement) :=
  if s.kind = .compound then
    (List.range s.children.length).mapM fun (i : Nat) => s.require i (entryRole i)
  else .ok [s]

end Statement

end LoanCheck

import LoanCheck.Index
import LoanCheck.Locator
import LoanCheck.Syntax.Lowering

/-!
# Functions of a source unit

`SourceUnit.functions` lists the functions that the source file itself defines. `SourceUnit.find`
goes by a locator: by name among all declarations at the top level, or by position among all functions.
-/

namespace LoanCheck.Syntax

/-- Why a source file or one of its functions is not available. -/
inductive SourceFault where
  | noFile (path : String)
  /-- The C parser gave up. -/
  | unparsable (path : String) (reason : String)
  | noMatch (locator : Locator)
  | onlyDeclared (locator : Locator)
  | noBody (function : String)
deriving DecidableEq, Repr

def SourceFault.message : SourceFault → String
  | noFile path => "no such source file: " ++ path
  | unparsable path reason => s!"libclang could not parse '{path}': {reason}"
  | noMatch locator => locator.render ++ " yielded no match"
  | onlyDeclared locator => locator.render ++ " names a declaration without a body"
  | noBody function => s!"function '{function}' has no body"

/-- The statements of a function's body. -/
def Cursor.statements (c : Cursor) : Except SourceFault (List Statement) :=
  match c.bodyStatements? with
  | some stmts => .ok stmts
  | none => .error (.noBody c.spelling)

namespace SourceUnit

/-- The node stands in the source file itself, or in no file. Without a name for the source file, every
file counts. -/
def inMainFile (u : SourceUnit) (c : Cursor) : Bool :=
  match c.position.file with
  | some file => u.spelling.isEmpty || file = u.spelling
  | none => true

/-- The functions that the source file defines, in order. -/
def functions (u : SourceUnit) : List Cursor :=
  u.declarations.filter fun c => c.isFunction && c.isDefinition && u.inMainFile c

/-- The function declarations at the top level that have a name. -/
def named (u : SourceUnit) (name : String) : List Cursor :=
  u.declarations.filter fun c => c.isFunction && c.spelling = name

/-- The position matches a line and, if one is given, a column. -/
def startsAt (c : Cursor) (line : Option Int) (column : Option Int) : Bool :=
  some c.position.line = line && (column.isNone || some c.position.column = column)

/-- The declaration that a locator names. Negative positions count from the last declaration of the name. -/
def declaration? (u : SourceUnit) (l : Locator) : Option Cursor :=
  match l.name with
  | some name => itemAt? (u.named name) l.index
  | none =>
    (Cursor.preorderAll u.declarations).find? fun c => c.isFunction && startsAt c l.line l.column

/-- The definition of the function that a locator names. -/
def find (u : SourceUnit) (l : Locator) : Except SourceFault Cursor :=
  match u.declaration? l with
  | none => .error (.noMatch l)
  | some c =>
    if c.isDefinition then .ok c
    else
      match c.definition with
      | some d => .ok d
      | none => .error (.onlyDeclared l)

end SourceUnit

end LoanCheck.Syntax

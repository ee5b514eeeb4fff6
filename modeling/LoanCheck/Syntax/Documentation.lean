import LoanCheck.Diagnostic.Basic
import LoanCheck.Syntax.Cursor
import LoanCheck.Text.Blank
import LoanCheck.Text.Lines
import LoanCheck.Text.Uppercase
import LoanCheck.Text.Word

/-!
# Comments and names of parameters

The comment before a function may annotate its parameters, one a line: `@param name [qualifier] text`.
Parameters of one name are frowned upon.
-/

namespace LoanCheck.Syntax

/-- What a comment says about a parameter. -/
structure Annotation where
  name : String
  qualifier : Option String
  description : String
deriving DecidableEq, Repr

/-- Blanks, at least one, and what follows. -/
def skipGap? (cs : List Char) : Option (List Char) :=
  match cs with
  | c :: rest => if Text.isBlank c then some (rest.dropWhile Text.isBlank) else none
  | [] => none

/-- A word of letters, digits and underscores, and what follows. -/
def takeWord? (cs : List Char) : Option (String × List Char) :=
  let word := cs.takeWhile Text.isWordChar
  if word.isEmpty then none else some (String.ofList word, cs.dropWhile Text.isWordChar)

/-- A qualifier in brackets after a gap, and what follows. -/
def takeQualifier? (cs : List Char) : Option (String × List Char) :=
  match skipGap? cs with
  | some ('[' :: rest) =>
    match takeWord? rest with
    | some (word, ']' :: rest) => some (word, rest)
    | _ => none
  | _ => none

/-- What stands behind the tag of an annotation. -/
def annotationAfterTag? (cs : List Char) : Option Annotation := do
  let (name, rest) ← takeWord? (← skipGap? cs)
  let text (cs : List Char) : String := String.ofList (Text.trimWhere Text.isBlank cs)
  match takeQualifier? rest with
  | some (qualifier, rest) => some ⟨name, some qualifier, text rest⟩
  | none => some ⟨name, none, text rest⟩

/-- The first annotation of a line. -/
def annotation? : List Char → Option Annotation
  | [] => none
  | c :: cs =>
    match c :: cs with
    | '@' :: 'p' :: 'a' :: 'r' :: 'a' :: 'm' :: rest =>
      match annotationAfterTag? rest with
      | some a => some a
      | none => annotation? cs
    | _ => annotation? cs

/-- The annotations in the comment before a function. -/
def Cursor.annotations (c : Cursor) : List Annotation :=
  match c.comment with
  | none => []
  | some text => (Text.lines text).filterMap fun line => annotation? line.toList

/-- The text with a capital at its front. -/
def capitalized (text : String) : String :=
  match text.toList with
  | [] => ""
  | c :: cs => Text.upperChar c ++ String.ofList cs

/-- The name that is frowned upon. -/
def selfName : String := "self"

/-- Warnings about parameters with that name. -/
def Cursor.selfWarnings (c : Cursor) : List Diagnostic :=
  (c.parameters.filter (·.name = selfName)).map fun p =>
    { id := "selfParameter"
      message := "using Rust naming conventions in C is absolutely illegal"
      severity := .warning
      location := p.location
      notes := ["try renaming `self` to `p_my" ++ capitalized p.type ++ "` instead"]
      function := some c.spelling }

end LoanCheck.Syntax

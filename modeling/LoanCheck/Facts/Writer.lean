import LoanCheck.Facts.FactSet
import LoanCheck.Facts.Fault
import LoanCheck.Text.Split

/-!
# Writing facts

A fact set as a text that reading accepts: one form, one row a line, rows of a relation in ascending order.
A name is written bare if it is made of digits or is an identifier, possibly behind an apostrophe; any
other name is written as a string.
-/

namespace LoanCheck.Facts

open Solver

def isNameStart (c : Char) : Bool := c.isAlpha || c = '_'
def isNameChar (c : Char) : Bool := c.isAlphanum || c = '_'

/-- An identifier, possibly behind an apostrophe, and possibly with one line break after it. -/
def isBareName (cs : List Char) : Bool :=
  let cs := match cs with
    | '\'' :: rest => rest
    | cs => cs
  match cs with
  | c :: rest =>
    isNameStart c && (rest.all isNameChar || (rest.getLast? = some '\n' && rest.dropLast.all isNameChar))
  | [] => false

/-- A name as facts write it. In a string backslashes are escaped before quotes are. -/
def writtenName (name : String) : String :=
  if Text.isDigits name || isBareName name.toList then name
  else "\"" ++ Text.replaceChar (Text.replaceChar name '\\' "\\\\") '"' "\\\"" ++ "\""

namespace FactSet

/-- One row. -/
def rowText (relation : RelationName) (columns : List String) : String :=
  "  (" ++ " ".intercalate (relation.word :: columns) ++ ")"

/-- The rows, relation by relation. -/
def rows (fs : FactSet) : List String :=
  let region (r : Region) : String := writtenName (fs.regionName r)
  let loan (l : Loan) : String := writtenName (fs.loanName l)
  let b := fs.base
  b.steps.toList.map (fun f => rowText .step [toString f.src, toString f.dst]) ++
    b.inclusions.toList.map
      (fun f => rowText .inclusion [region f.sub, region f.sup, toString f.point]) ++
    b.borrows.toList.map
      (fun f => rowText .borrow [region f.region, loan f.loan, toString f.point]) ++
    b.live.toList.map (fun f => rowText .liveness [region f.region, toString f.point]) ++
    b.kills.toList.map (fun f => rowText .kill [loan f.loan, toString f.point]) ++
    b.invalidations.toList.map (fun f => rowText .invalidation [toString f.point, loan f.loan])

/-- The first line. An empty function name is left out. -/
def headLine (fs : FactSet) : String :=
  match fs.function with
  | some name => if name.isEmpty then "(facts" else "(facts " ++ writtenName name
  | none => "(facts"

/-- The fact set as text. -/
def write (fs : FactSet) : String :=
  "\n".intercalate (fs.headLine :: fs.rows) ++ ")\n"

end FactSet

end LoanCheck.Facts

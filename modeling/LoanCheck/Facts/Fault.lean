import LoanCheck.Files.Fault
import LoanCheck.Sexp.Reader
import LoanCheck.Solver.Relation

/-!
# Faults in facts

Everything that can be wrong with facts: with their text, with the file they come from, and with how they
fit the functions they are about. A source names the text in messages, down to the form.
-/

namespace LoanCheck.Facts

/-- The six base relations, as forms name them. -/
inductive RelationName where
  | step
  | inclusion
  | borrow
  | liveness
  | kill
  | invalidation
deriving DecidableEq, Repr

namespace RelationName

/-- All names, in the order they are written in. -/
def all : List RelationName := [step, inclusion, borrow, liveness, kill, invalidation]

def word : RelationName → String
  | step => "cfg-edge"
  | inclusion => "base-subset"
  | borrow => "borrow-region"
  | liveness => "region-live-at"
  | kill => "killed"
  | invalidation => "invalidates"

/-- Number of columns. -/
def arity : RelationName → Nat
  | inclusion | borrow => 3
  | step | liveness | kill | invalidation => 2

/-- The relation that a word names. -/
def ofWord? (word : String) : Option RelationName :=
  all.find? (·.word = word)

end RelationName

/-- What is wrong with facts. -/
inductive FactsFault where
  /-- The text is no sequence of S-expressions. -/
  | malformed (source : String) (fault : Sexp.ReadFault)
  | unknownRelation (source : String) (form : Sexp.Datum)
  | wrongArity (source : String) (relation : RelationName) (got : Nat)
  | badName (source : String) (datum : Sexp.Datum)
  | badPoint (source : String) (datum : Sexp.Datum)
  /-- Named forms stand next to bare relations. -/
  | mixed (source : String)
  /-- The file cannot be read. -/
  | unreadable (path : String) (fault : Files.FileFault)
  /-- Two forms are about one function. -/
  | duplicate (function : Option String)
  /-- The facts mention points that the flow graph, of the given size, lacks. -/
  | unknownPoints (function : Option String) (points : List Solver.Point) (size : Nat)
  /-- An unnamed form, and not exactly one function. -/
  | ambiguous

/-- The text of a list of integers. -/
def integerList (xs : List Int) : String :=
  "[" ++ ", ".intercalate (xs.map toString) ++ "]"

def FactsFault.message : FactsFault → String
  | malformed source fault => source ++ ": malformed S-expression: " ++ fault.message
  | unknownRelation source form => source ++ ": unknown relation " ++ form.shown
  | wrongArity source relation got =>
    s!"{source}: ({relation.word} ...) takes {relation.arity} arguments, got {got}"
  | badName source datum => source ++ ": expected a region or loan name, got " ++ datum.shown
  | badPoint source datum => source ++ ": expected a non-negative point, got " ++ datum.shown
  | mixed source => source ++ ": mixes (facts ...) forms with bare relations"
  | unreadable path fault => s!"cannot read facts file {path}: {fault.message}"
  | duplicate function =>
    "duplicate facts for function " ++ (function.map Text.quoted).getD "None"
  | unknownPoints function points size =>
    let owner := match function with
      | some name => if name.isEmpty then "" else s!" for '{name}'"
      | none => ""
    let last : Int := size - 1
    s!"facts{owner} reference points {integerList points} not in the CFG (points 0..{last})"
  | ambiguous => "an unnamed facts form needs exactly one function; name it or use --function"

end LoanCheck.Facts

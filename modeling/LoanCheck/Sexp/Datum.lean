import LoanCheck.Decimal.Layout
import LoanCheck.Text.Numeral

/-!
# S-expressions

A datum is an atom (integer, double, symbol or string), a list in round brackets, a group in square
brackets, or a quoted datum. `Datum.shown` is how messages show a datum.
-/

namespace LoanCheck.Sexp

/-- A parsed S-expression. -/
inductive Datum where
  | int (value : Int)
  | float (value : Float)
  | symbol (name : String)
  | string (text : String)
  /-- `( … )` -/
  | list (items : List Datum)
  /-- `[ … ]` -/
  | group (items : List Datum)
  /-- `'x` -/
  | quoted (inner : Datum)

namespace Datum

/-- What a bare word stands for: an integer if it is an integer numeral, else a double if it is a decimal
numeral, else a symbol. -/
def ofWord (word : String) : Datum :=
  match Text.integer word with
  | .ok i => .int i
  | .error _ =>
    match Text.double? word with
    | some x => .float x
    | none => .symbol word

mutual

/-- The datum as messages show it. -/
def shown : Datum → String
  | .int i => toString i
  | .float x => Decimal.roundTrip x
  | .symbol name => "Symbol(" ++ Text.quoted name ++ ")"
  | .string text => Text.quoted text
  | .list items => "[" ++ ", ".intercalate (shownAll items) ++ "]"
  | .group items => "Brackets(I=[" ++ ", ".intercalate (shownAll items) ++ "])"
  | .quoted inner => "Quoted(" ++ inner.shown ++ ")"
termination_by structural d => d

/-- Every datum of a list as messages show it. -/
def shownAll : List Datum → List String
  | [] => []
  | d :: ds => d.shown :: shownAll ds
termination_by structural l => l

end

end Datum

end LoanCheck.Sexp

import LoanCheck.Text.Numeral
import LoanCheck.Text.Split

/-!
# Locators

A locator names one function of a source file, either by its name and the number of the declaration
(`file#name`, `file#name#2`), or by the line, and maybe the column, where its declaration starts
(`file:42`, `file:42:10`).
-/

namespace LoanCheck

/-- Reference to one function. With a name the locator goes by name and index, without one by line and
column. -/
structure Locator where
  file : String
  name : Option String := none
  index : Int := 0
  line : Option Int := none
  column : Option Int := none
deriving DecidableEq, Repr

/-- Why a text is no locator. -/
inductive LocatorFault where
  | format (text : String)
  | number (text : String)
  /-- A run of digits that is no integer numeral. -/
  | numeral (fault : Text.NumeralFault)
deriving DecidableEq, Repr

/-- A sentence about a text, with the text unless it is empty. -/
def LocatorFault.about (sentence text : String) : String :=
  if text.isEmpty then sentence else sentence ++ ": " ++ Text.quoted text

def LocatorFault.message : LocatorFault → String
  | format text => about "Invalid file location format. Refer to help for examples." text
  | number text => about "Couldn't parse what we expected to be a number" text
  | numeral fault => fault.message

namespace Locator

/-- The locator goes by name. -/
def isSymbol (l : Locator) : Bool := l.name.isSome

/-- A number inside of the locator `text`. -/
def numberIn (text part : String) : Except LocatorFault Int :=
  if Text.isDigits part then (Text.integer part).mapError .numeral else .error (.number text)

def parse (text : String) : Except LocatorFault Locator := do
  match Text.split '#' text with
  | [_] =>
    match Text.split ':' text with
    | [file, line] =>
      if file.isEmpty then .error (.format text)
      else return { file, line := ← numberIn text line }
    | [file, line, column] =>
      if file.isEmpty then .error (.format text)
      else
        let line ← numberIn text line
        let column ← numberIn text column
        return { file, line, column }
    | _ => .error (.format text)
  | [file, name] =>
    if file.isEmpty || name.isEmpty then .error (.format text) else return { file, name }
  | [file, name, index] =>
    if file.isEmpty || name.isEmpty then .error (.format text)
    else return { file, name, index := ← numberIn text index }
  | _ => .error (.format text)

/-- The text of a locator. A missing line is written `None`. -/
def render (l : Locator) : String :=
  match l.name with
  | some name => if l.index = 0 then s!"{l.file}#{name}" else s!"{l.file}#{name}#{l.index}"
  | none =>
    let line := (l.line.map toString).getD "None"
    match l.column with
    | some column => s!"{l.file}:{line}:{column}"
    | none => s!"{l.file}:{line}"

end Locator

end LoanCheck

import LoanCheck.Config.Settings
import LoanCheck.Diagnostic.Snippets
import LoanCheck.Facts.Fault
import LoanCheck.Syntax.Lookup
import LoanCheck.Text.ShellWords

/-!
# Faults

Everything that can end a task. Most faults have a stable code that is printed in front of the message;
faults of the surroundings, such as files that are no text, have none.
-/

namespace LoanCheck

/-- Stable codes: the thousands tell drawing graphs, solving, and input apart. -/
inductive FaultCode where
  | malformedStatement
  | unsupportedConstruct
  | exhausted
  | facts
  | locator
  | config
  | source
deriving DecidableEq, Repr

def FaultCode.word : FaultCode → String
  | malformedStatement => "PC-1001"
  | unsupportedConstruct => "PC-1002"
  | exhausted => "PC-2001"
  | facts => "PC-3001"
  | locator => "PC-3002"
  | config => "PC-3003"
  | source => "PC-3004"

/-- A message behind its code. -/
def FaultCode.label (code : FaultCode) (text : String) : String :=
  s!"[{code.word}] {text}"

inductive Fault where
  | statement (fault : StatementFault)
  | exhausted (fault : Solver.Exhausted)
  | facts (fault : Facts.FactsFault)
  | locator (fault : LocatorFault)
  | config (fault : ConfigFault)
  | source (fault : Syntax.SourceFault)
  /-- A file that should be a text is none. -/
  | encoding (fault : Text.Utf8Fault)
  /-- Arguments that do not split into words. -/
  | words (fault : Text.ShellFault)
  | path (fault : Files.PathFault)
  | render (fault : RenderFault)
  | outputFormat (word : String)
  /-- An option without any value where a path is needed. -/
  | emptyPath
  /-- An option without any value where a number is needed. -/
  | emptyNumber

def StatementFault.code (f : StatementFault) : FaultCode :=
  if f.isUnsupported then .unsupportedConstruct else .malformedStatement

/-- Faults of the file behind a configuration, a value in place of its tables, and numbers beyond all limits have
no code. -/
def ConfigFault.code? : ConfigFault → Option FaultCode
  | noKeys _ | timeoutRange | numeral _ | encoding _ | path _ | toml _ (.numeral _) => none
  | _ => some .config

namespace Fault

def code? : Fault → Option FaultCode
  | statement f => some f.code
  | exhausted _ => some .exhausted
  | facts _ => some .facts
  | locator (.numeral _) => none
  | locator _ => some .locator
  | config f => f.code?
  | source _ => some .source
  | encoding _ | words _ | path _ | render _ | outputFormat _ | emptyPath | emptyNumber => none

/-- The message without its code. -/
def text : Fault → String
  | statement f => f.message
  | exhausted f => f.message
  | facts f => f.message
  | locator f => f.message
  | config f => f.message
  | source f => f.message
  | encoding f => f.message
  | words f => f.message
  | path f => f.message
  | render f => f.message
  | emptyPath => "expected str, bytes or os.PathLike object, not list"
  | emptyNumber => "'<=' not supported between instances of 'list' and 'int'"
  | outputFormat word =>
    "unknown output format " ++ Text.quoted word ++ "; expected one of (" ++
      ", ".intercalate (OutputFormat.all.map fun f => Text.quoted f.word) ++ ")"

def message (f : Fault) : String :=
  match f.code? with
  | some code => code.label f.text
  | none => f.text

end Fault

end LoanCheck

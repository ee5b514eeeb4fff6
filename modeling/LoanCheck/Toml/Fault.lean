import LoanCheck.Text.Numeral

/-!
# Faults in TOML texts
-/

namespace LoanCheck.Toml

/-- What the grammar does not allow. -/
inductive Reason where
  | statement
  | lineEnd
  | header
  | key
  | equals
  | value
  | unclosedString
  | escape
  | character
  | array
  | inlineTable
  | date
  | redefined
  | frozen
  | overwritten
deriving DecidableEq, Repr

def Reason.message : Reason → String
  | statement => "Invalid statement"
  | lineEnd => "Expected newline or end of document after a statement"
  | header => "Unclosed table header"
  | key => "Invalid initial character for a key part"
  | equals => "Expected '=' after a key in a key/value pair"
  | value => "Invalid value"
  | unclosedString => "Unterminated string"
  | escape => "Invalid escape in a string"
  | character => "Illegal character"
  | array => "Unclosed array"
  | inlineTable => "Unclosed inline table"
  | date => "Invalid date or time"
  | redefined => "Cannot declare a table twice"
  | frozen => "Cannot change a value that is complete"
  | overwritten => "Cannot overwrite a value"

/-- Why a text is no TOML document. -/
inductive TomlFault where
  | grammar (reason : Reason)
  /-- An integer with too many digits. -/
  | numeral (fault : Text.NumeralFault)
deriving DecidableEq, Repr

def TomlFault.message : TomlFault → String
  | grammar reason => reason.message
  | numeral fault => fault.message

end LoanCheck.Toml

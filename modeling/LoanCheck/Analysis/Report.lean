import LoanCheck.Diagnostic.Basic
import LoanCheck.Flow.Graph
import LoanCheck.Solver.Checker

/-!
# Reports

The outcome of analysing one function, and the exit code of several.
-/

namespace LoanCheck.Analysis

/-- How the analysis of a function ended. -/
inductive Status where
  | ok
  | violations
  | malformed
  | unsupported
  | inconclusive
deriving DecidableEq, Repr

namespace Status

def word : Status → String
  | ok => "ok"
  | violations => "violations"
  | malformed => "malformed"
  | unsupported => "unsupported"
  | inconclusive => "inconclusive"

/-- The analysis came to no end. -/
def isOpen : Status → Bool
  | malformed | unsupported | inconclusive => true
  | ok | violations => false

end Status

/-- Outcome of analysing one function. -/
structure Report where
  function : Option String
  status : Status := .ok
  /-- The flow graph, if it could be drawn. -/
  graph : Option Flow.Graph := none
  /-- The result of the borrow check, if there was one. -/
  result : Option Solver.CheckResult := none
  diagnostics : List Diagnostic := []
  /-- The borrow check came to its end. -/
  checked : Bool := false

def Report.failed (r : Report) : Bool := r.status != .ok

/-- Exit codes of the program. -/
inductive ExitCode where
  | clean
  | violations
  /-- Something around the analysis failed. -/
  | failure
  | inconclusive
deriving DecidableEq, Repr

def ExitCode.number : ExitCode → Nat
  | clean => 0
  | violations => 1
  | failure => 2
  | inconclusive => 3

/-- Violations win over analyses without an end. -/
def exitCode (reports : List Report) : ExitCode :=
  if reports.any (·.status == .violations) then .violations
  else if reports.any (·.status.isOpen) then .inconclusive
  else .clean

end LoanCheck.Analysis

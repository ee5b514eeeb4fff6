import LoanCheck.Diagnostic.Render
import LoanCheck.Solver.Budget

/-!
# Configurations

What the user can set for a run, and what may be wrong with it. `Config.problems` lists all that is wrong;
a configuration without problems is fit for use.
-/

namespace LoanCheck

/-- Settings of a run. -/
structure Config where
  /-- Passes per saturation; nothing, or zero, for no limit. -/
  maxPasses : Option Int := some 10000
  /-- Seconds per saturation. -/
  timeout : Option Float := none
  /-- Further arguments for parsing source files. -/
  clangArgs : List String := []
  /-- Name of the output format. -/
  outputFormat : String := OutputFormat.text.word
  /-- Program that shows graphs. -/
  dotViewer : Option String := none

/-- What may be wrong with a configuration. -/
inductive ConfigProblem where
  | passes
  | timeout
  | format (word : String)
deriving DecidableEq, Repr

def ConfigProblem.message : ConfigProblem → String
  | passes => "max_passes must be positive, or 0 for no limit"
  | timeout => "timeout_seconds must be positive"
  | format word =>
    "output format must be one of " ++ ", ".intercalate (OutputFormat.all.map (·.word)) ++
      ", not " ++ Text.quoted word

/-- Several problems in one line. -/
def ConfigProblem.messages (problems : List ConfigProblem) : String :=
  "; ".intercalate (problems.map (·.message))

namespace Config

/-- All that is wrong with a configuration. -/
def problems (c : Config) : List ConfigProblem :=
  (if c.maxPasses.any (· < 0) then [.passes] else []) ++
  (if c.timeout.any (· ≤ 0.0) then [.timeout] else []) ++
  (if (OutputFormat.ofWord? c.outputFormat).isNone then [.format c.outputFormat] else [])

/-- The limits of a saturation. -/
def budget (c : Config) : Solver.Budget :=
  { maxPasses := c.maxPasses.filter (· ≠ 0), timeout := c.timeout }

end Config

end LoanCheck

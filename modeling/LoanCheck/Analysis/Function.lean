import LoanCheck.Analysis.Report
import LoanCheck.Diagnostic.Explain
import LoanCheck.Fault
import LoanCheck.Facts.Reader

/-!
# Analysing a function

A function is analysed in two steps: its flow graph is drawn, and the facts about it, if there are any, are
checked over the graph. Whatever goes wrong becomes part of the report, so that one function never stands
in the way of another.
-/

namespace LoanCheck.Analysis

open Facts Solver

/-- A report, with the journal and the clock after it. -/
structure Analysed where
  report : Report
  journal : Journal
  clock : Clock

/-- What is to be analysed. -/
structure FunctionTask where
  name : Option String
  statements : List Statement
  facts : Option FactSet := none
  /-- Where the function stands. -/
  location : Option SourceSpan := none

/-- How the journal names a function. -/
def FunctionTask.shownName (t : FunctionTask) : String := t.name.getD "None"

/-- The diagnostic of a fault that keeps a function from being checked. -/
def failure (id : String) (code : FaultCode) (message : String) (location : Option SourceSpan)
    (function : Option String) : Diagnostic :=
  { id, message, location, notes := ["error code " ++ code.word], function }

/-- The diagnostic of a statement that cannot be drawn, placed at the statement or at the function. -/
def statementFailure (t : FunctionTask) (f : StatementFault) : Diagnostic :=
  let id := if f.isUnsupported then "unsupportedConstruct" else "malformedStatement"
  failure id f.code f.message (f.stmt.location.or t.location) t.name

/-- The record of a statement that cannot be drawn. -/
def statementRecord (t : FunctionTask) (f : StatementFault) : Record :=
  if f.isUnsupported then
    ⟨.info, .analysis, s!"{t.shownName}: unsupported construct: {f.message}"⟩
  else ⟨.warning, .analysis, s!"{t.shownName}: malformed statement: {f.message}"⟩

/-- The diagnostic of an overrun. -/
def overrun (e : Exhausted) (function : Option String) : Diagnostic :=
  { id := "resourceExhausted"
    message := "analysis inconclusive: " ++ e.message
    severity := .warning
    notes := ["raise max_passes or timeout_seconds in polite-c.toml"]
    function }

/-- How the journal names the owner of facts. -/
def ownerName (function : Option String) : String :=
  match function with
  | some name => if name.isEmpty then "<facts>" else name
  | none => "<facts>"

/-- Checks facts, over a flow graph if there is one. -/
def checkFacts (function : Option String) (graph : Option Flow.Graph) (facts : FactSet)
    (budget : Budget) (clock : Clock) : Analysed :=
  let p := check (facts.inputs graph) budget clock
  let events := p.events.map (·.record)
  match p.outcome with
  | .error e =>
    let text := ownerName function ++ ": " ++ FaultCode.exhausted.label e.message
    ⟨{ function, graph, status := .inconclusive, diagnostics := [overrun e function] },
      events ++ [⟨.warning, .analysis, text⟩], p.clock⟩
  | .ok result =>
    let around : Surroundings := { graph, facts := some facts, function }
    ⟨{ function, graph, result := some result, checked := true
       status := if result.violations.isEmpty then .ok else .violations
       diagnostics := result.violations.map (·.diagnostic around) }, events, p.clock⟩

/-- Analyses a function. Without facts only its graph is drawn; facts on points that the graph lacks are
malformed. -/
def analyzeFunction (t : FunctionTask) (budget : Budget) (clock : Clock) : Analysed :=
  let drawn := Flow.Graph.ofStatements t.statements t.name
  match drawn.outcome with
  | .error e =>
    let status := if e.isUnsupported then .unsupported else .malformed
    ⟨{ function := t.name, status, diagnostics := [statementFailure t e] },
      drawn.journal ++ [statementRecord t e], clock⟩
  | .ok graph =>
    match t.facts with
    | none =>
      let text := s!"{t.shownName}: no facts, CFG only ({graph.nodes.size} points)"
      ⟨{ function := t.name, graph := some graph }, drawn.journal ++ [⟨.debug, .analysis, text⟩], clock⟩
    | some facts =>
      match facts.validate graph with
      | .error e =>
        ⟨{ function := t.name, graph := some graph, status := .malformed
           diagnostics := [failure "invalidFacts" .facts e.message t.location t.name] },
          drawn.journal ++ [⟨.warning, .analysis, s!"{t.shownName}: {e.message}"⟩], clock⟩
      | .ok () =>
        let a := checkFacts t.name (some graph) facts budget clock
        { a with journal := drawn.journal ++ a.journal }

/-- Checks a facts form alone. -/
def analyzeFacts (facts : FactSet) (budget : Budget) (clock : Clock) : Analysed :=
  checkFacts facts.function none facts budget clock

/-- Analyses one task after the other. -/
def analyzeAll {α : Type} (analyze : α → Clock → Analysed) :
    List α → Clock → List Report × Journal × Clock
  | [], clock => ([], [], clock)
  | t :: ts, clock =>
    let a := analyze t clock
    let (reports, journal, clock) := analyzeAll analyze ts a.clock
    (a.report :: reports, a.journal ++ journal, clock)

end LoanCheck.Analysis

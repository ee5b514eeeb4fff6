import LoanCheck.Analysis.Function
import LoanCheck.Syntax.Documentation

/-!
# Analysing a source unit

The functions of a source unit, each with the facts that carry its name. A form without a name belongs
to the only function. Facts whose name no function has are noted in the journal.
-/

namespace LoanCheck.Analysis

open Facts Solver Syntax

/-- Facts under the names of functions. -/
abbrev NamedFacts := List (String × FactSet)

namespace NamedFacts

/-- Sets the facts of a name, in place if the name is there already. -/
def set (named : NamedFacts) (name : String) (facts : FactSet) : NamedFacts :=
  if named.any (·.1 = name) then named.map fun e => if e.1 = name then (name, facts) else e
  else named ++ [(name, facts)]

/-- Removes the facts of a name. -/
def drop (named : NamedFacts) (name : String) : NamedFacts :=
  named.filter (·.1 ≠ name)

end NamedFacts

/-- Gives the forms to the names of functions. An unnamed form needs exactly one function. -/
def assignFacts (functions : List Cursor) (sets : List FactSet) : Except FactsFault NamedFacts := do
  let index ← byFunction sets
  let named : NamedFacts := index.filterMap fun e => e.1.map (·, e.2)
  match index.lookup none with
  | none => .ok named
  | some unnamed =>
    match functions with
    | [f] => .ok (named.set f.spelling unnamed)
    | _ => .error .ambiguous

/-- The records of the annotations of a function. -/
def annotationNotes (f : Cursor) : Journal :=
  f.annotations.map fun a =>
    ⟨.debug, .analysis, s!"{f.spelling}: @param {a.name} [" ++ a.qualifier.getD "" ++ "]"⟩

/-- A function with the facts about it. -/
structure Pairing where
  function : Cursor
  facts : Option FactSet

/-- Each function with the facts of its name, and the facts that are left over. Of several functions with one
name the first takes the facts. -/
def pairUp : List Cursor → NamedFacts → List Pairing × NamedFacts
  | [], named => ([], named)
  | f :: fs, named =>
    let (pairings, leftover) := pairUp fs (named.drop f.spelling)
    (⟨f, named.lookup f.spelling⟩ :: pairings, leftover)

/-- What comes of an analysis: the journal, the clock after it, and a result or a fault. -/
structure UnitRun (α : Type) where
  journal : Journal
  clock : Clock
  outcome : Except Fault α

/-- The analysis of a function of a source unit, with the warnings about its parameters in front. -/
def analyzeCursor (p : Pairing) (statements : List Statement) (budget : Budget) (clock : Clock) :
    Analysed :=
  let f := p.function
  let a := analyzeFunction
    { name := some f.spelling, statements, facts := p.facts, location := f.location } budget clock
  { a with report := { a.report with diagnostics := f.selfWarnings ++ a.report.diagnostics } }

/-- Analyses functions in turn. A function without a body ends the analysis. -/
def analyzePairings (budget : Budget) : List Pairing → Clock → UnitRun (List Report)
  | [], clock => ⟨[], clock, .ok []⟩
  | p :: ps, clock =>
    let notes := annotationNotes p.function
    match p.function.statements with
    | .error e => ⟨notes, clock, .error (.source e)⟩
    | .ok statements =>
      let a := analyzeCursor p statements budget clock
      let rest := analyzePairings budget ps a.clock
      ⟨notes ++ a.journal ++ rest.journal, rest.clock, rest.outcome.map (a.report :: ·)⟩

/-- The record of facts that no function takes. -/
def leftoverNote (path : String) (name : String) : Record :=
  ⟨.warning, .analysis, s!"facts for '{name}' match no function in {path}"⟩

/-- The functions to analyse: the one that a locator names, or all that the source file defines. -/
def selectFunctions (u : SourceUnit) : Option Locator → Except SourceFault (List Cursor)
  | some l => (u.find l).map ([·])
  | none => .ok u.functions

/-- Analyses the functions of a source unit. -/
def analyzeUnit (u : SourceUnit) (path : String) (sets : List FactSet)
    (locator : Option Locator) (budget : Budget) (clock : Clock) : UnitRun (List Report) :=
  match selectFunctions u locator with
  | .error e => ⟨[], clock, .error (.source e)⟩
  | .ok functions =>
    match assignFacts functions sets with
    | .error e => ⟨[], clock, .error (.facts e)⟩
    | .ok named =>
      let (pairings, leftover) := pairUp functions named
      let run := analyzePairings budget pairings clock
      match run.outcome with
      | .error e => ⟨run.journal, run.clock, .error e⟩
      | .ok reports =>
        ⟨run.journal ++ leftover.map fun e => leftoverNote path e.1, run.clock, .ok reports⟩

end LoanCheck.Analysis

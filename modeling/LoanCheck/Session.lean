import LoanCheck.Analysis.Unit
import LoanCheck.Config.Load
import LoanCheck.Diagnostic.Snippets
import LoanCheck.Facts.Load
import LoanCheck.Files.Output

/-!
# Sessions

A session is what the program works in: the files, the C parser, the clock, and all that it has done so far.
Work is done in a session and may end in a fault; what was done up to there stays done.
-/

namespace LoanCheck

/-- What becomes of a program that is started to show a graph. -/
inductive Viewer where
  /-- There is no such program. -/
  | missing
  /-- The program ends; a negative code is the number of a signal. -/
  | ends (code : Int)
deriving DecidableEq, Repr

/-- What the program finds around it. -/
structure Environment where
  /-- How messages name the working directory. -/
  workingDirectory : String
  /-- Arguments for the C parser that the user has set for all runs. -/
  clangArgs : Option String := none
  /-- The C parser: it takes a path and arguments, and may give up for a reason. -/
  parse : String → List String → Except String Syntax.SourceUnit
  viewer : Viewer := .missing
  /-- Where `~` leads. -/
  homes : Files.Homes := []
  /-- The longest text that there is room for, if there is a limit. -/
  room : Option Nat := none
  /-- Time of day in front of log lines. -/
  timestamp : String := "00:00:00"

/-- A call of the C parser. -/
structure ParserCall where
  path : String
  args : List String
deriving DecidableEq, Repr

/-- A start of a program that shows a graph: its command line, and the text that it is given. -/
structure ViewerCall where
  command : List String
  input : String
deriving DecidableEq, Repr

/-- The state of the program. -/
structure Session where
  environment : Environment
  files : Files.Tree
  clock : Solver.Clock
  memory : SourceMemory := {}
  journal : Journal := []
  /-- What was printed. -/
  output : String := ""
  parserCalls : List ParserCall := []
  viewerCalls : List ViewerCall := []

/-- Work in a session. -/
abbrev Work := EStateM Fault Session

namespace Work

def note (records : Journal) : Work Unit :=
  modify fun s => { s with journal := s.journal ++ records }

def log (level : Level) (text : String) : Work Unit :=
  note [⟨level, .program, text⟩]

def print (text : String) : Work Unit :=
  modify fun s => { s with output := s.output ++ text }

/-- Takes over an outcome with its notes. -/
def ofNoted {ε α : Type} (fault : ε → Fault) (n : Noted ε α) : Work α := do
  note n.journal
  match n.outcome with
  | .ok a => return a
  | .error e => throw (fault e)

def ofExcept {ε α : Type} (fault : ε → Fault) (e : Except ε α) : Work α :=
  ofNoted fault ⟨[], e⟩

def loadConfig (path : Option String) : Work Config := do
  let s ← get
  ofNoted .config (Config.load s.files s.environment.workingDirectory path)

def loadFacts (path : String) : Work (List Facts.FactSet) := do
  ofNoted id (Facts.load (← get).files path)

/-- The text of a batch of diagnostics. -/
def render (format : OutputFormat) (ds : List Diagnostic) : Work String := do
  let s ← get
  let r := Diagnostic.renderOver s.files s.environment.room s.memory format ds
  set { s with memory := r.memory }
  ofNoted .render r.text

/-- Arguments that every source file is parsed with. -/
def baseArgs : List String := ["-x", "c", "-std=c11"]

/-- The arguments for the C parser: fixed ones, those set for all runs, and those of this run. -/
def parserArgs (set : Option String) (extra : List String) :
    Except Text.ShellFault (List String) :=
  match set with
  | none => .ok (baseArgs ++ extra)
  | some text => (Text.shellWords text).map fun words => baseArgs ++ words ++ extra

/-- A list of texts as messages show it. -/
def shownTexts (texts : List String) : String :=
  "[" ++ ", ".intercalate (texts.map Text.quoted) ++ "]"

/-- Parses a source file. Errors in it are noted and otherwise left to the C parser. -/
def parseSource (path : String) (extra : List String) : Work Syntax.SourceUnit := do
  let s ← get
  if !s.files.isFile path then
    throw (.source (.noFile path))
  let args ← ofExcept .words (parserArgs s.environment.clangArgs extra)
  note [⟨.debug, .syntaxTree, s!"Parsing {path} with args {shownTexts args}"⟩]
  modify fun s => { s with parserCalls := s.parserCalls ++ [⟨path, args⟩] }
  match s.environment.parse path args with
  | .error reason => throw (.source (.unparsable path reason))
  | .ok unit =>
    let errors := unit.messages.filter (Syntax.Message.error ≤ ·.severity)
    note (errors.map fun m => ⟨.warning, .syntaxTree, path ++ ": " ++ m.text⟩)
    return unit

/-- Takes over what an analysis has done. -/
def ofUnitRun {α : Type} (run : Analysis.UnitRun α) : Work α := do
  modify fun s => { s with clock := run.clock }
  ofNoted id ⟨run.journal, run.outcome⟩

/-- Analyses the functions of a source file, or the one that a locator names. -/
def analyzeFile (path : String) (config : Config) (sets : List Facts.FactSet)
    (locator : Option Locator) : Work (List Analysis.Report) := do
  let unit ← parseSource path config.clangArgs
  ofUnitRun (Analysis.analyzeUnit unit path sets locator config.budget (← get).clock)

/-- Analyses facts forms alone. -/
def analyzeForms (sets : List Facts.FactSet) (budget : Solver.Budget) :
    Work (List Analysis.Report) := do
  let (reports, journal, clock) :=
    Analysis.analyzeAll (fun fs => Analysis.analyzeFacts fs budget) sets (← get).clock
  modify fun s => { s with clock }
  note journal
  return reports

end Work

end LoanCheck

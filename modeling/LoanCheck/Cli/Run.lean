import LoanCheck.Cli.Options
import LoanCheck.Flow.Dot
import LoanCheck.Session

/-!
# Running commands

Each command is a task in a session that ends with an exit code. `run` is a whole run of the program: what
it prints, what it writes to the log, and its exit code.
-/

namespace LoanCheck.Cli

open Analysis (ExitCode Report)

/-! ## Viewers -/

/-- Names of signals. -/
def signalNames : List (Nat × String) :=
  [(1, "SIGHUP"), (2, "SIGINT"), (3, "SIGQUIT"), (4, "SIGILL"), (5, "SIGTRAP"), (6, "SIGABRT"),
    (7, "SIGBUS"), (8, "SIGFPE"), (9, "SIGKILL"), (10, "SIGUSR1"), (11, "SIGSEGV"), (12, "SIGUSR2"),
    (13, "SIGPIPE"), (14, "SIGALRM"), (15, "SIGTERM"), (16, "SIGSTKFLT"), (17, "SIGCHLD"),
    (18, "SIGCONT"), (19, "SIGSTOP"), (20, "SIGTSTP"), (21, "SIGTTIN"), (22, "SIGTTOU"),
    (23, "SIGURG"), (24, "SIGXCPU"), (25, "SIGXFSZ"), (26, "SIGVTALRM"), (27, "SIGPROF"),
    (28, "SIGWINCH"), (29, "SIGIO"), (30, "SIGPWR"), (31, "SIGSYS"), (34, "SIGRTMIN"),
    (64, "SIGRTMAX")]

/-- What went wrong with a viewer, if anything did. -/
def viewerProblem? (command : List String) : Viewer → Option String
  | .missing => some (Files.FileFault.mk .notFound (command.headD "")).message
  | .ends code =>
    let shown := s!"Command '{Work.shownTexts command}'"
    if code = 0 then none
    else if code < 0 then
      match signalNames.lookup code.natAbs with
      | some name => some s!"{shown} died with <Signals.{name}: {code.natAbs}>."
      | none => some s!"{shown} died with unknown signal {code.natAbs}."
    else some s!"{shown} returned non-zero exit status {code}."

/-- Shows a graph in a viewer. -/
def display (dot viewer : String) : Work ExitCode := do
  Work.log .info s!"Opening CFG in {viewer}"
  let command := [viewer, "/dev/stdin"]
  modify fun s => { s with viewerCalls := s.viewerCalls ++ [⟨command, dot⟩] }
  match viewerProblem? command (← get).environment.viewer with
  | none => return .clean
  | some text =>
    Work.log .error s!"Failed to run dot viewer {Text.quoted viewer}: {text}"
    return .failure

/-! ## Commands -/

/-- A text that is given and not empty. -/
def nonempty (text : Option String) : Option String := text.filter (!·.isEmpty)

/-- The configuration with the settings of the command line. -/
def Given.override (g : Given) (c : Config) : Config :=
  { c with
    maxPasses := match g.maxPasses with
      | some n => if n = 0 then none else some n
      | none => c.maxPasses
    timeout := match g.timeout with
      | .value x => some x
      | _ => c.timeout
    outputFormat := (g.format.map (·.word)).getD c.outputFormat }

/-- The configuration that the arguments name. -/
def namedConfig : Said String → Work Config
  | .nothing => Work.loadConfig none
  | .empty => throw .emptyPath
  | .value path => Work.loadConfig (some path)

/-- Goes on with the configuration of a run, unless it has problems. -/
def withConfig (path : Said String) (g : Given) (go : Config → Work ExitCode) : Work ExitCode := do
  let c := g.override (← namedConfig path)
  if g.timeout matches .empty then throw .emptyNumber
  if c.problems.isEmpty then go c
  else
    Work.log .error ("Invalid configuration: " ++ ConfigProblem.messages c.problems)
    return .failure

/-- The locator of the function that a text asks for: a whole locator, or the name of a function of the
file. -/
def functionLocator (file text : String) : Except LocatorFault Locator :=
  if text.toList.any fun c => c == '#' || c == ':' then Locator.parse text
  else .ok { file, name := some text }

/-- How a locator shows a function without a name. -/
def emptyName : String := "[]"

/-- Looks for a function without a name in a file. No function is without one, so the search fails once the
file has been parsed. -/
def findNameless (file : String) (c : Config) : Work (List Report) := do
  let _ ← Work.parseSource file c.clangArgs
  throw (.source (.noMatch { file, name := some emptyName }))

/-- Analyses the functions of a file, or the one that is asked for. -/
def analyze (file : String) (c : Config) (sets : List Facts.FactSet) :
    Said String → Work (List Report)
  | .nothing => Work.analyzeFile file c sets none
  | .empty => findNameless file c
  | .value text => do
    let locator ← Work.ofExcept .locator (functionLocator file text)
    Work.analyzeFile file c sets (some locator)

/-- Last line of a text report. -/
def summaryLine (reports : List Report) : String :=
  let checked := reports.countP (·.checked)
  let violations := reports.flatMap fun r => (r.result.map (·.violations)).getD []
  s!"\n--- {reports.length} function(s), {checked} checked, {violations.length} violation(s) ---\n"

/-- Prints reports. -/
def printReports (reports : List Report) (format : OutputFormat) : Work Unit := do
  let diagnostics := reports.flatMap (·.diagnostics)
  if !diagnostics.isEmpty then
    Work.print ((← Work.render format diagnostics) ++ "\n")
  if format = .text then
    Work.print (summaryLine reports)

/-- The output format of a configuration without problems. -/
def formatOf (c : Config) : OutputFormat := (OutputFormat.ofWord? c.outputFormat).getD .text

/-- Checks the functions of a source file. -/
def check (file : String) (g : Given) (c : Config) : Work ExitCode := do
  let sets ← match nonempty g.facts with
    | some path => Work.loadFacts path
    | none => pure []
  let reports ← analyze file c sets g.function
  printReports reports (formatOf c)
  return Analysis.exitCode reports

/-- Checks the forms of a facts file. -/
def solve (path : String) (c : Config) : Work ExitCode := do
  let sets ← Work.loadFacts path
  let reports ← Work.analyzeForms sets c.budget
  if reports.isEmpty then
    Work.log .warning s!"{path} contains no facts"
  printReports reports (formatOf c)
  return Analysis.exitCode reports

/-- Writes a text to a file. -/
def save (path text : String) : Work Unit := do
  let s ← get
  let place ← Work.ofExcept .path (s.files.outputPlace s.environment.homes path)
  let attempt := s.files.writeAt place text.toUTF8
  set { s with files := attempt.tree }
  match attempt.refusal with
  | none => pure ()
  | some r =>
    let shown := s.files.shownPlace s.environment.workingDirectory r.place
    throw (.path (.file ⟨r.problem, shown⟩))

/-- Prints a text, or writes it to a file. -/
def emit (path : Said String) (text : String) : Work Unit :=
  match path with
  | .nothing => Work.print text
  | .empty => throw .emptyPath
  | .value path => if path = "-" then Work.print text else save path text

/-- Shows the flow graph of a function. -/
def graph (text : String) (g : Given) (c : Config) : Work ExitCode := do
  let locator ← Work.ofExcept .locator (Locator.parse text)
  let unit ← Work.parseSource locator.file c.clangArgs
  let function ← Work.ofExcept .source (unit.find locator)
  let statements ← Work.ofExcept .source function.statements
  let drawn := Flow.Graph.ofStatements statements (some function.spelling)
  Work.note drawn.journal
  match drawn.outcome with
  | .error fault =>
    Work.log .error s!"{locator.render}: cannot build CFG: {(Fault.statement fault).message}"
    return .inconclusive
  | .ok graph =>
    let dot := graph.toDot (some locator.render)
    if (nonempty g.render).isSome then
      Work.log .error Flow.noPicture
      return .failure
    match (nonempty g.dotViewer).or (nonempty c.dotViewer) with
    | some viewer => display dot viewer
    | none =>
      emit g.output (dot ++ "\n")
      return .clean

/-- Runs a command. -/
def execute (config : Said String) (command : Command) (g : Given) : Work ExitCode :=
  let operand := g.operand.getD ""
  withConfig config g fun c =>
    match command with
    | .check => check operand g c
    | .solve => solve operand c
    | .graph => graph operand g c

/-! ## Runs -/

/-- The least level that is logged. -/
def levelOf (verbosity : Nat) : Level :=
  if verbosity = 0 then .warning else if verbosity = 1 then .info else .debug

/-- The word of a level in five characters. -/
def levelTag (level : Level) : String :=
  String.ofList ((level.word.toList ++ List.replicate 5 ' ').take 5)

/-- A line of the log. -/
def logLine (timestamp : String) (r : Record) : String :=
  s!"{timestamp} [{levelTag r.level}] {r.component.word}: {r.text}\n"

/-- The log from a level on. -/
def logText (timestamp : String) (level : Level) (journal : Journal) : String :=
  String.join ((journal.atLeast level).map (logLine timestamp))

/-- What a run leaves behind. -/
structure Output where
  exit : Nat
  printed : String := ""
  log : String := ""
deriving DecidableEq, Repr

/-- The last record of a run that ended in a fault. A fault without a code was not expected, and a line for
its trace follows. -/
def faultLog (timestamp : String) (fault : Fault) : String :=
  match fault.code? with
  | some _ => logLine timestamp ⟨.error, .program, fault.message⟩
  | none =>
    logLine timestamp ⟨.error, .program, "Unhandled exception: " ++ fault.message⟩ ++ "<traceback>\n"

/-- One run of the program. -/
def run (args : List String) (s : Session) : Output × Session :=
  match readArguments args with
  | .error (.shown text) => (⟨ExitCode.clean.number, text, ""⟩, s)
  | .error (.refused command fault) =>
    (⟨ExitCode.failure.number, "", refusal command fault⟩, s)
  | .ok i =>
    match i.command with
    | none => (⟨ExitCode.failure.number, "", programHelp⟩, s)
    | some (command, given) =>
      let time := s.environment.timestamp
      let log (s : Session) : String := logText time (levelOf i.verbosity) s.journal
      match execute i.config command given { s with journal := [], output := "" } with
      | .ok code s => (⟨code.number, s.output, log s⟩, s)
      | .error fault s =>
        (⟨ExitCode.failure.number, s.output, log s ++ faultLog time fault⟩, s)

/-- Line between two runs. -/
def divider : String := "----\n"

/-- Several runs in one session. The exit code is that of the last. -/
def runAll : List String → List (List String) → Session → Output × Session
  | args, [], s => run args s
  | args, next :: more, s =>
    let (first, s) := run args s
    let (rest, s) := runAll next more s
    (⟨rest.exit, first.printed ++ divider ++ rest.printed, first.log ++ divider ++ rest.log⟩, s)

end LoanCheck.Cli

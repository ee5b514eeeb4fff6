import LoanCheck.Cli.Arguments
import LoanCheck.Cli.Help
import LoanCheck.Diagnostic.Render
import LoanCheck.Text.Numeral

/-!
# The command line

The options of the program and of its commands, and what a list of arguments asks for.
-/

namespace LoanCheck.Cli

/-- All options. -/
inductive Flag where
  | help
  | version
  | verbose
  | config
  | facts
  | function
  | format
  | maxPasses
  | timeout
  | output
  | dotViewer
  | render
deriving DecidableEq, Repr

namespace Flag

def names : Flag → List String
  | help => ["-h", "--help"]
  | version => ["--version"]
  | verbose => ["-v", "--verbose"]
  | config => ["-c", "--config"]
  | facts => ["--facts"]
  | function => ["--function"]
  | format => ["--format"]
  | maxPasses => ["--max-passes"]
  | timeout => ["--timeout"]
  | output => ["-o", "--output"]
  | dotViewer => ["--dot-viewer"]
  | render => ["--render"]

def takesValue : Flag → Bool
  | help | version | verbose => false
  | _ => true

def spec (f : Flag) : OptionSpec Flag := ⟨f, f.names, f.takesValue⟩

end Flag

/-- The commands. -/
inductive Command where
  | check
  | solve
  | graph
deriving DecidableEq, Repr

namespace Command

def word : Command → String
  | check => "check"
  | solve => "solve"
  | graph => "cfg"

def all : List Command := [check, solve, graph]

def ofWord? (word : String) : Option Command := all.find? (·.word = word)

/-- Options of a command. -/
def flags : Command → List Flag
  | check => [.help, .facts, .function, .format, .maxPasses, .timeout]
  | solve => [.help, .format, .maxPasses, .timeout]
  | graph => [.help, .output, .dotViewer, .render]

/-- Name of the operand. -/
def operand : Command → String
  | check => "FILE"
  | solve => "FACTS"
  | graph => "LOCATOR"

def usage : Command → String
  | check => Help.checkUsage
  | solve => Help.solveUsage
  | graph => Help.graphUsage

def help : Command → String
  | check => Help.checkUsage ++ Help.checkDetails
  | solve => Help.solveUsage ++ Help.solveDetails
  | graph => Help.graphUsage ++ Help.graphDetails

end Command

/-- Name of the program. -/
def programName : String := "polite-c"

/-- What the program says about its version. -/
def versionText : String := programName ++ " 0.1.0\n"

/-- Help of the program. -/
def programHelp : String := Help.programUsage ++ Help.programDetails

/-- Why the program does no work. -/
inductive Halt where
  /-- A text was asked for. -/
  | shown (text : String)
  /-- The arguments are refused, by the program or by a command. -/
  | refused (command : Option Command) (fault : ArgumentFault)
deriving DecidableEq, Repr

/-- What was said about an option. -/
inductive Said (α : Type) where
  | nothing
  /-- The option was given without a value. -/
  | empty
  | value (a : α)

/-- The value, or else that there is none. -/
def Said.ofValue? {α : Type} : Option α → Said α
  | some a => .value a
  | none => .empty

/-- What the arguments of a command say. -/
structure Given where
  operand : Option String := none
  facts : Option String := none
  function : Said String := .nothing
  format : Option OutputFormat := none
  maxPasses : Option Int := none
  timeout : Said Float := .nothing
  output : Said String := .nothing
  dotViewer : Option String := none
  render : Option String := none

/-- Takes an option of a command without a value into account. Most are then as if they had not been given; a
limit is lifted, and a function without a name is looked for. -/
def Given.clear (g : Given) : Flag → Given
  | .facts => { g with facts := none }
  | .function => { g with function := .empty }
  | .output => { g with output := .empty }
  | .dotViewer => { g with dotViewer := none }
  | .render => { g with render := none }
  | .format => { g with format := none }
  | .maxPasses => { g with maxPasses := some 0 }
  | .timeout => { g with timeout := .empty }
  | .help | .version | .verbose | .config => g

/-- Takes an option of a command with its value into account. -/
def Given.set (g : Given) (flag : Flag) (text : String) : Except ArgumentFault Given :=
  let name := joinNames flag.names
  match flag with
  | .facts => .ok { g with facts := some text }
  | .function => .ok { g with function := .value text }
  | .output => .ok { g with output := .value text }
  | .dotViewer => .ok { g with dotViewer := some text }
  | .render => .ok { g with render := some text }
  | .format =>
    match OutputFormat.ofWord? text with
    | some format => .ok { g with format := some format }
    | none => .error (.badChoice name text (OutputFormat.all.map (·.word)))
  | .maxPasses =>
    match Text.integer text with
    | .ok n => .ok { g with maxPasses := some n }
    | .error _ => .error (.badValue name "int" text)
  | .timeout =>
    match Text.double? text with
    | some x => .ok { g with timeout := .value x }
    | none => .error (.badValue name "float" text)
  | .help | .version | .verbose | .config => .ok g

/-- Takes one event of a command into account. -/
def Given.step (command : Command) (g : Given) : Event Flag → Except Halt Given
  | .option .help _ => .error (.shown command.help)
  | .option flag (some text) => (g.set flag text).mapError (.refused (some command))
  | .option flag none => .ok (g.clear flag)
  | .operand texts => .ok { g with operand := texts.head? }

/-- Reads the arguments of a command. The arguments that are left over come with the result. -/
def readCommand (command : Command) (args : List String) : Except Halt (Given × List String) := do
  let reading := read (command.flags.map (·.spec)) .single args
  let given ← reading.events.foldlM (Given.step command) {}
  match reading.ending with
  | .error fault => .error (.refused (some command) fault)
  | .ok leftOver =>
    if given.operand.isNone then .error (.refused (some command) (.missing command.operand))
    else .ok (given, leftOver)

/-- What the arguments of the program say. -/
structure Invocation where
  /-- How often more talk was asked for. -/
  verbosity : Nat := 0
  config : Said String := .nothing
  command : Option (Command × Given) := none
  /-- Arguments that the command has left over. -/
  leftOver : List String := []

/-- Takes one event of the program into account. -/
def Invocation.step (i : Invocation) : Event Flag → Except Halt Invocation
  | .option .help _ => .error (.shown programHelp)
  | .option .version _ => .error (.shown versionText)
  | .option .verbose _ => .ok { i with verbosity := i.verbosity + 1 }
  | .option .config value => .ok { i with config := .ofValue? value }
  | .option _ _ => .ok i
  | .operand [] => .ok i
  | .operand (word :: args) =>
    match Command.ofWord? word with
    | none =>
      .error (.refused none (.badChoice "<command>" word (Command.all.map (·.word))))
    | some command => do
      let (given, leftOver) ← readCommand command args
      .ok { i with command := some (command, given), leftOver }

/-- Options of the program itself. -/
def programFlags : List Flag := [.help, .version, .verbose, .config]

/-- Reads the arguments of the program. -/
def readArguments (args : List String) : Except Halt Invocation := do
  let reading := read (programFlags.map (·.spec)) .command args
  let i ← reading.events.foldlM Invocation.step {}
  match reading.ending with
  | .error fault => .error (.refused none fault)
  | .ok leftOver =>
    let leftOver := leftOver ++ i.leftOver
    if leftOver.isEmpty then .ok i else .error (.refused none (.unrecognized leftOver))

/-- What is printed about refused arguments. -/
def refusal (command : Option Command) (fault : ArgumentFault) : String :=
  let (usage, name) := match command with
    | none => (Help.programUsage, programName)
    | some c => (c.usage, programName ++ " " ++ c.word)
  usage ++ name ++ ": error: " ++ fault.message ++ "\n"

end LoanCheck.Cli

/-!
# Help texts

The usage of the program and of its commands, and the help that follows a usage.
-/

namespace LoanCheck.Cli.Help

/-- Lines of a text, each with its break. -/
def ofLines (lines : List String) : String :=
  String.join (lines.map (· ++ "\n"))

/-- Usage of the program. -/
def programUsage : String :=
  ofLines [
    "usage: polite-c [-h] [--version] [-v] [-c PATH] <command> ..."]

/-- What follows the usage of the program. -/
def programDetails : String :=
  ofLines [
    "",
    "polite-c: borrow checking for C.",
    "",
    "Builds per-function control flow graphs with libclang and",
    "checks loans against region facts with a Datalog-style solver.",
    "",
    "options:",
    "  -h, --help            show this help message and exit",
    "  --version             show program's version number and exit",
    "  -v, --verbose         Increase verbosity (-v info, -vv debug).",
    "  -c PATH, --config PATH",
    "                        Config file, or a directory containing polite-c.toml.",
    "",
    "commands:",
    "  <command>",
    "    check               Borrow-check the functions of a C file.",
    "    solve               Run the solver on a facts file alone.",
    "    cfg                 Show the control flow graph of one function.",
    "",
    "locators:",
    "  file.c#function      first declaration named 'function'",
    "  file.c#function#2    third declaration with that name",
    "  file.c:42            function declared on line 42",
    "  file.c:42:10         ... at column 10",
    "",
    "examples:",
    "  polite-c check example.c --facts example.facts",
    "  polite-c solve example.facts --format json",
    "  polite-c cfg example.c#control_flow -o control_flow.dot"]

/-- Usage of `check`. -/
def checkUsage : String :=
  ofLines [
    "usage: polite-c check [-h] [--facts FACTS] [--function LOCATOR]",
    "                      [--format \x7btext,json\x7d] [--max-passes N]",
    "                      [--timeout SECONDS]",
    "                      FILE"]

/-- What follows the usage of `check`. -/
def checkDetails : String :=
  ofLines [
    "",
    "Build the CFG of every function and check it against its facts.",
    "",
    "positional arguments:",
    "  FILE                  C source file.",
    "",
    "options:",
    "  -h, --help            show this help message and exit",
    "  --facts FACTS         S-expression facts file; functions without facts are",
    "                        only built.",
    "  --function LOCATOR    Restrict to one function (name or locator).",
    "  --format \x7btext,json\x7d  Diagnostic output format (default: from config, else",
    "                        text).",
    "  --max-passes N        Abort saturation after N passes per relation (0: no",
    "                        limit).",
    "  --timeout SECONDS     Abort saturation after this much wall-clock time."]

/-- Usage of `solve`. -/
def solveUsage : String :=
  ofLines [
    "usage: polite-c solve [-h] [--format \x7btext,json\x7d] [--max-passes N]",
    "                      [--timeout SECONDS]",
    "                      FACTS"]

/-- What follows the usage of `solve`. -/
def solveDetails : String :=
  ofLines [
    "",
    "positional arguments:",
    "  FACTS                 S-expression facts file.",
    "",
    "options:",
    "  -h, --help            show this help message and exit",
    "  --format \x7btext,json\x7d  Diagnostic output format (default: from config, else",
    "                        text).",
    "  --max-passes N        Abort saturation after N passes per relation (0: no",
    "                        limit).",
    "  --timeout SECONDS     Abort saturation after this much wall-clock time."]

/-- Usage of `cfg`. -/
def graphUsage : String :=
  ofLines [
    "usage: polite-c cfg [-h] [-o FILE] [--dot-viewer PROG] [--render PATH] LOCATOR"]

/-- What follows the usage of `cfg`. -/
def graphDetails : String :=
  ofLines [
    "",
    "positional arguments:",
    "  LOCATOR               Function locator.",
    "",
    "options:",
    "  -h, --help            show this help message and exit",
    "  -o FILE, --output FILE",
    "                        Write DOT to FILE (\"-\" or omit for stdout).",
    "  --dot-viewer PROG     Program used to display the graph, spawned with",
    "                        /dev/stdin.",
    "  --render PATH         Render with Graphviz to PATH (format from suffix;",
    "                        needs the viz extra)."]

end LoanCheck.Cli.Help

import LoanCheck.Analysis.Function
import LoanCheck.Analysis.Report
import LoanCheck.Analysis.Unit
import LoanCheck.Cli.Arguments
import LoanCheck.Cli.Help
import LoanCheck.Cli.Options
import LoanCheck.Cli.Run
import LoanCheck.Config.Basic
import LoanCheck.Config.Load
import LoanCheck.Config.Settings
import LoanCheck.Decimal.Double
import LoanCheck.Decimal.Layout
import LoanCheck.Decimal.Shortest
import LoanCheck.Diagnostic.Basic
import LoanCheck.Diagnostic.Explain
import LoanCheck.Diagnostic.Render
import LoanCheck.Diagnostic.Snippets
import LoanCheck.Facts.FactSet
import LoanCheck.Facts.Fault
import LoanCheck.Facts.Load
import LoanCheck.Facts.Reader
import LoanCheck.Facts.Writer
import LoanCheck.Fault
import LoanCheck.Files.Fault
import LoanCheck.Files.Output
import LoanCheck.Files.Path
import LoanCheck.Files.Tree
import LoanCheck.Flow.Build
import LoanCheck.Flow.Dot
import LoanCheck.Flow.Graph
import LoanCheck.Flow.Reach
import LoanCheck.Flow.Steps
import LoanCheck.Index
import LoanCheck.Journal
import LoanCheck.Json.Value
import LoanCheck.Locator
import LoanCheck.Main
import LoanCheck.Session
import LoanCheck.Sexp.Datum
import LoanCheck.Sexp.Reader
import LoanCheck.Sexp.Token
import LoanCheck.Solver.Budget
import LoanCheck.Solver.Checker
import LoanCheck.Solver.Deduction
import LoanCheck.Solver.Provenance
import LoanCheck.Solver.Relation
import LoanCheck.Solver.Rules
import LoanCheck.Solver.Violation
import LoanCheck.Statement
import LoanCheck.Syntax.Cursor
import LoanCheck.Syntax.Documentation
import LoanCheck.Syntax.Lookup
import LoanCheck.Syntax.Lowering
import LoanCheck.Text.Blank
import LoanCheck.Text.CaseRun
import LoanCheck.Text.Cased
import LoanCheck.Text.CharSet
import LoanCheck.Text.Digit
import LoanCheck.Text.Hex
import LoanCheck.Text.Lines
import LoanCheck.Text.Lowercase
import LoanCheck.Text.Numeral
import LoanCheck.Text.Printable
import LoanCheck.Text.Quoted
import LoanCheck.Text.ShellWords
import LoanCheck.Text.Split
import LoanCheck.Text.Titlecase
import LoanCheck.Text.Uppercase
import LoanCheck.Text.Utf8
import LoanCheck.Text.Word
import LoanCheck.Toml.Document
import LoanCheck.Toml.Fault
import LoanCheck.Toml.Reader
import LoanCheck.Toml.Scalar
import LoanCheck.Toml.Value
import LoanCheck.Proofs.Solver.Inclusions
import LoanCheck.Proofs.Solver.Requirements
import LoanCheck.Proofs.Solver.Premises
import LoanCheck.Proofs.Flow.Drawing
import LoanCheck.Proofs.Flow.Semantics
import LoanCheck.Proofs.Flow.Simulation
import LoanCheck.Proofs.Solver.Paths
import LoanCheck.Proofs.Solver.Verdict
import LoanCheck.Proofs.Solver.Histories
import LoanCheck.Proofs.Solver.Separation
import LoanCheck.Proofs.Solver.Monotonicity
import LoanCheck.Proofs.Flow.Shape
import LoanCheck.Proofs.Flow.Exits
import LoanCheck.Proofs.Sexp.Spelling
import LoanCheck.Proofs.Text.Numerals
import LoanCheck.Proofs.Sexp.Integers
import LoanCheck.Proofs.Solver.Rows
import LoanCheck.Proofs.Facts.Numbering
import LoanCheck.Proofs.Facts.Reading
import LoanCheck.Proofs.Facts.Names
import LoanCheck.Proofs.Facts.RoundTrip
import LoanCheck.Proofs.Solver.Allowances
import LoanCheck.Proofs.Solver.Listing
import LoanCheck.Proofs.Solver.Mentions
import LoanCheck.Proofs.Solver.Renaming
import LoanCheck.Proofs.Analysis.Verdicts
import LoanCheck.Proofs.Facts.Rearranging
import LoanCheck.Proofs.Analysis.Invariance
import LoanCheck.Proofs.Analysis.Consistency
import LoanCheck.Proofs.Facts.Words
import LoanCheck.Proofs.Facts.Survival
import LoanCheck.Proofs.Flow.Faults
import LoanCheck.Proofs.Solver.Explanations
import LoanCheck.Proofs.Analysis.Ownership
import LoanCheck.Proofs.Analysis.Isolation
import LoanCheck.Proofs.Solver.Walks
import LoanCheck.Proofs.Solver.Uses
import LoanCheck.Proofs.Solver.Passes
import LoanCheck.Proofs.Solver.Detection
import LoanCheck.Proofs.Facts.Forms
import LoanCheck.Proofs.Flow.Reachability
import LoanCheck.Proofs.Syntax.LoopHeaders
import LoanCheck.Proofs.Flow.Pictures
import LoanCheck.Proofs.Json.Decoder
import LoanCheck.Proofs.Json.RoundTrip
import LoanCheck.Proofs.Json.Format
import LoanCheck.Proofs.Diagnostic.JsonLines
import LoanCheck.Proofs.Locator.Outcomes
import LoanCheck.Proofs.Config.Tables
import LoanCheck.Proofs.Locator.RoundTrip
import LoanCheck.Proofs.Syntax.Positions
import LoanCheck.Proofs.Flow.Parts

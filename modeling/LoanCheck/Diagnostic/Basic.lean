import LoanCheck.Json.Value
import LoanCheck.Statement

/-!
# Diagnostics

A finding for the user: what is wrong and where, with notes and with marked places elsewhere.
-/

namespace LoanCheck

inductive Severity where
  | error
  | warning
  | note
deriving DecidableEq, Repr

def Severity.word : Severity → String
  | .error => "error"
  | .warning => "warning"
  | .note => "note"

/-- A further remark of a diagnostic, at a place. A marker without its place can be kept and listed, but not
drawn. -/
structure Marker where
  location : Option SourceSpan
  label : String
deriving DecidableEq, Repr

structure Diagnostic where
  /-- Which kind of finding it is. -/
  id : String
  message : String
  severity : Severity := .error
  location : Option SourceSpan := none
  notes : List String := []
  secondary : List Marker := []
  /-- The function it is about. -/
  function : Option String := none
deriving DecidableEq, Repr

namespace Diagnostic

def locationJson (s : SourceSpan) : Json.Value :=
  .object [("column", .int s.column), ("file", .string s.file), ("line", .int s.line)]

def orNull {α : Type} (encode : α → Json.Value) : Option α → Json.Value
  | some a => encode a
  | none => .null

def markerJson (m : Marker) : Json.Value :=
  .object [("label", .string m.label), ("location", orNull locationJson m.location)]

/-- The diagnostic as an object, keys ascending. -/
def toJson (d : Diagnostic) : Json.Value :=
  .object [
    ("function", orNull .string d.function),
    ("id", .string d.id),
    ("location", orNull locationJson d.location),
    ("message", .string d.message),
    ("notes", .array (d.notes.map .string)),
    ("secondary", .array (d.secondary.map markerJson)),
    ("severity", .string d.severity.word)]

end Diagnostic

end LoanCheck

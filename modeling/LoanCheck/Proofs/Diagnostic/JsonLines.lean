import LoanCheck.Diagnostic.Snippets
import LoanCheck.Proofs.Json.Format
import LoanCheck.Proofs.Text.Joining

/-!
# Diagnostics as lines of JSON

The JSON of a batch has one line for each diagnostic, whatever characters are in messages, notes, labels and paths
(`lines_renderOver_json`). A reader that knows nothing but JSON gets the object of each diagnostic back from its
line, and one that knows the keys (`ofJson?`) the diagnostic itself, but for the end columns, which are not in the
object (`withoutEnds`).
-/

namespace LoanCheck

/-! ## Reading objects -/

namespace Json.Value

/-- The value of a key of an object, read in some way. -/
def field? {α : Type} (key : String) (read : Value → Option α) : Value → Option α
  | object members => (members.lookup key).bind read
  | _ => none

def text? : Value → Option String
  | string s => some s
  | _ => none

theorem text?_string (s : String) : (string s).text? = some s := rfl

def int? : Value → Option Int
  | int i => some i
  | _ => none

/-- The items of an array, all of them read in the same way. -/
def items? {α : Type} (read : Value → Option α) : Value → Option (List α)
  | array items => items.mapM read
  | _ => none

/-- Something that may be absent, and then null stands in its place. -/
def orNone? {α : Type} (read : Value → Option α) : Value → Option (Option α)
  | null => some none
  | v => (read v).map some

section

variable {α β : Type} {read : Value → Option β} {write : α → Value} {f : α → β}

theorem items?_map (h : ∀ a, read (write a) = some (f a)) (as : List α) :
    items? read (.array (as.map write)) = some (as.map f) := by
  show (as.map write).mapM read = _
  induction as with
  | nil => rfl
  | cons a as ih => simp [h, ih]

theorem orNone?_orNull (h : ∀ a, read (write a) = some (f a)) (hnull : read .null = none) (a : Option α) :
    orNone? read (Diagnostic.orNull write a) = some (a.map f) := by
  cases a with
  | none => rfl
  | some a =>
    have hne : write a ≠ .null := by
      intro heq
      have ha := h a
      rw [heq, hnull] at ha
      cases ha
    rw [Diagnostic.orNull, orNone?, h, Option.map_some, Option.map_some]
    exact hne

end

end Json.Value

open Json

def Severity.ofWord? (word : String) : Option Severity :=
  [error, warning, note].find? (·.word = word)

/-- The place without its end column. -/
def SourceSpan.withoutEnd (s : SourceSpan) : SourceSpan :=
  { s with endColumn := 0 }

def Marker.withoutEnd (m : Marker) : Marker :=
  { m with location := m.location.map SourceSpan.withoutEnd }

namespace Diagnostic

/-- The diagnostic with its places without their end columns. -/
def withoutEnds (d : Diagnostic) : Diagnostic :=
  { d with location := d.location.map SourceSpan.withoutEnd, secondary := d.secondary.map Marker.withoutEnd }

def locationOfJson? (v : Value) : Option SourceSpan := do
  let file ← v.field? "file" Value.text?
  let line ← v.field? "line" Value.int?
  let column ← v.field? "column" Value.int?
  return { file, line, column }

def markerOfJson? (v : Value) : Option Marker := do
  let location ← v.field? "location" (Value.orNone? locationOfJson?)
  let label ← v.field? "label" Value.text?
  return { location, label }

/-- The diagnostic of an object. -/
def ofJson? (v : Value) : Option Diagnostic := do
  let id ← v.field? "id" Value.text?
  let severity ← v.field? "severity" fun w => w.text?.bind Severity.ofWord?
  let message ← v.field? "message" Value.text?
  let function ← v.field? "function" (Value.orNone? Value.text?)
  let location ← v.field? "location" (Value.orNone? locationOfJson?)
  let notes ← v.field? "notes" (Value.items? Value.text?)
  let secondary ← v.field? "secondary" (Value.items? markerOfJson?)
  return { id, message, severity, location, notes, secondary, function }

theorem locationOfJson?_locationJson (s : SourceSpan) : locationOfJson? (locationJson s) = some s.withoutEnd := rfl

theorem orNone?_orNull_location (s : Option SourceSpan) :
    Value.orNone? locationOfJson? (orNull locationJson s) = some (s.map SourceSpan.withoutEnd) :=
  Value.orNone?_orNull locationOfJson?_locationJson rfl s

theorem markerOfJson?_markerJson (m : Marker) : markerOfJson? (markerJson m) = some m.withoutEnd := by
  have hlocation : (markerJson m).field? "location" (Value.orNone? locationOfJson?) =
    some (m.location.map SourceSpan.withoutEnd) := orNone?_orNull_location m.location
  rw [markerOfJson?, hlocation]
  rfl

theorem ofJson?_toJson (d : Diagnostic) : ofJson? d.toJson = some d.withoutEnds := by
  have hseverity : d.toJson.field? "severity" (fun w => w.text?.bind Severity.ofWord?) = some d.severity := by
    show Severity.ofWord? d.severity.word = some d.severity
    cases d.severity <;> decide
  have hfunction : d.toJson.field? "function" (Value.orNone? Value.text?) = some d.function := by
    have hread := Value.orNone?_orNull Value.text?_string rfl d.function
    rwa [Option.map_id'] at hread
  have hlocation : d.toJson.field? "location" (Value.orNone? locationOfJson?) =
    some (d.location.map SourceSpan.withoutEnd) := orNone?_orNull_location d.location
  have hnotes : d.toJson.field? "notes" (Value.items? Value.text?) = some d.notes := by
    have hread := Value.items?_map Value.text?_string d.notes
    rwa [List.map_id'] at hread
  have hsecondary : d.toJson.field? "secondary" (Value.items? markerOfJson?) =
    some (d.secondary.map Marker.withoutEnd) := Value.items?_map markerOfJson?_markerJson d.secondary
  rw [ofJson?, hseverity, hfunction, hlocation, hnotes, hsecondary]
  rfl

/-! ## Lines -/

theorem keysAscend_orNull {α : Type} {encode : α → Value} (h : ∀ a, (encode a).KeysAscend) (a : Option α) :
    (orNull encode a).KeysAscend := by
  cases a with
  | none => exact .null
  | some a => exact h a

theorem keysAscend_locationJson (s : SourceSpan) : (locationJson s).KeysAscend := by
  refine .object ?_ ?_
  · show List.Pairwise (· < ·) ["column", "file", "line"]
    decide
  · simp only [List.forall_mem_cons]
    exact ⟨.int _, .string _, .int _, nofun⟩

theorem keysAscend_markerJson (m : Marker) : (markerJson m).KeysAscend := by
  refine .object ?_ ?_
  · show List.Pairwise (· < ·) ["label", "location"]
    decide
  · simp only [List.forall_mem_cons]
    exact ⟨.string _, keysAscend_orNull keysAscend_locationJson _, nofun⟩

theorem keysAscend_toJson (d : Diagnostic) : d.toJson.KeysAscend := by
  refine .object ?_ ?_
  · show List.Pairwise (· < ·) ["function", "id", "location", "message", "notes", "secondary", "severity"]
    decide
  · have hnotes : ∀ v ∈ d.notes.map Value.string, v.KeysAscend := List.forall_mem_map.2 fun s _ => .string s
    have hsecondary : ∀ v ∈ d.secondary.map markerJson, v.KeysAscend :=
      List.forall_mem_map.2 fun m _ => keysAscend_markerJson m
    simp only [List.forall_mem_cons]
    exact ⟨keysAscend_orNull .string _, .string _, keysAscend_orNull keysAscend_locationJson _, .string _,
      .array hnotes, .array hsecondary, .string _, nofun⟩

theorem isPrintable_of_mem_renderJson {d : Diagnostic} {c : Char} (h : c ∈ d.renderJson.toList) : IsPrintable c := by
  rw [renderJson, Value.encode, String.toList_ofList] at h
  exact isPrintable_of_mem_chars _ c h

theorem isUnbroken_renderJson (d : Diagnostic) : Text.IsUnbroken d.renderJson.toList := by
  intro c hc
  obtain ⟨hlow, hhigh⟩ := isPrintable_of_mem_renderJson hc
  simp only [Text.isLineBreak, Bool.or_eq_false_iff, Bool.and_eq_false_iff, decide_eq_false_iff_not,
    beq_eq_false_iff_ne]
  omega

theorem lines_renderAll_json (sources : SourceLines) (ds : List Diagnostic) :
    Text.lines (renderAll sources .json ds) = ds.map renderJson := by
  refine Text.lines_intercalate (List.forall_mem_map.2 fun d _ => ⟨isUnbroken_renderJson d, ?_⟩)
  -- an empty text is the text of no value
  intro hempty
  have hdecode := decode_encode d.toJson
  rw [renderJson] at hempty
  rw [hempty] at hdecode
  cases hdecode

/-- The JSON of a batch is ASCII and has one line for each diagnostic, in order. The line is the object of the
diagnostic, from which the object and all that it says about the diagnostic are read back. -/
theorem lines_renderOver_json (files : Files.Tree) (room : Option Nat) (memory : SourceMemory)
    (ds : List Diagnostic) :
    ∃ out, (renderOver files room memory .json ds).text.outcome = .ok out ∧ (∀ c ∈ out.toList, c.toNat < 0x80) ∧
      List.Forall₂ (fun d line => Writes d.toJson line.toList ∧ decode line = some d.toJson ∧
        ofJson? d.toJson = some d.withoutEnds) ds (Text.lines out) := by
  refine ⟨_, rfl, ?_, ?_⟩
  · refine Text.forall_mem_intercalate (c := '\n') rfl (by decide) (List.forall_mem_map.2 fun d _ c hc => ?_)
    have hc := isPrintable_of_mem_renderJson hc
    unfold IsPrintable at hc
    omega
  · rw [lines_renderAll_json, List.forall₂_map_right_iff, List.forall₂_same]
    intro d _
    refine ⟨?_, decode_encode d.toJson, ofJson?_toJson d⟩
    rw [renderJson, Value.encode, String.toList_ofList]
    exact writes_chars (keysAscend_toJson d)

end Diagnostic

end LoanCheck

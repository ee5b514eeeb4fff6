import LoanCheck.Toml.Fault
import LoanCheck.Toml.Value

/-!
# TOML documents

A document under construction: the tables so far, and marks on keys that say what may still be done to
them. A key is *explicit* once a header or a dotted key of an earlier section has opened it, and *frozen*
once it holds an array or an inline table; freezing covers everything below the key.
-/

namespace LoanCheck.Toml

/-- Names from the top down. -/
abbrev Key := List String

/-- A part of the document may no longer be opened or changed. -/
inductive Mark where
  | explicit (key : Key)
  | frozen (key : Key)
deriving DecidableEq, Repr

abbrev Marks := List Mark

namespace Marks

def isExplicit (m : Marks) (key : Key) : Bool :=
  !key.isEmpty && m.contains (.explicit key)

/-- The key or one above it is frozen. -/
def isFrozen (m : Marks) (key : Key) : Bool :=
  m.any fun
    | .frozen above => !above.isEmpty && above.isPrefixOf key
    | .explicit _ => false

/-- Forgets all marks of a key and of the keys below it. -/
def clear (m : Marks) (key : Key) : Marks :=
  m.filter fun
    | .explicit k | .frozen k => !key.isPrefixOf k

end Marks

namespace Table

def has (t : Table) (name : String) : Bool := t.any (·.1 = name)

/-- Replaces the value of a key that the table has. -/
def replace (t : Table) (name : String) (v : Value) : Table :=
  t.map fun m => if m.1 = name then (name, v) else m

/-- Adds a key that the table does not have. -/
def insertNew (t : Table) (name : String) (v : Value) : Except TomlFault Table :=
  if t.has name then .error (.grammar .overwritten) else .ok (t ++ [(name, v)])

/-- Adds an empty table to the array of a key. -/
def appendTable (t : Table) (name : String) : Except TomlFault Table :=
  match t.lookup name with
  | some (.array items) => .ok (t.replace name (.array (items ++ [.table []])))
  | some _ => .error (.grammar .overwritten)
  | none => .ok (t ++ [(name, .array [.table []])])

/-- Changes the table under a key, which is created if it is missing. Where the key leads through an array,
its last item is meant, if `throughArrays`. -/
def update (throughArrays : Bool) (f : Table → Except TomlFault Table) :
    Key → Table → Except TomlFault Table
  | [], t => f t
  | name :: rest, t =>
    match t.lookup name with
    | none => do
      let inner ← update throughArrays f rest []
      .ok (t ++ [(name, .table inner)])
    | some (.table inner) => do
      let inner ← update throughArrays f rest inner
      .ok (t.replace name (.table inner))
    | some (.array items) =>
      match throughArrays, items.getLast? with
      | true, some (.table inner) => do
        let inner ← update throughArrays f rest inner
        .ok (t.replace name (.array (items.dropLast ++ [.table inner])))
      | _, _ => .error (.grammar .overwritten)
    | some _ => .error (.grammar .overwritten)

end Table

/-- A document under construction. -/
structure Document where
  root : Table := []
  marks : Marks := []
  /-- Keys that become explicit at the next header. -/
  pending : List Key := []
  /-- The key of the current section. -/
  header : Key := []

namespace Document

/-- Ends the current section. -/
def endSection (d : Document) : Document :=
  { d with marks := d.pending.map .explicit ++ d.marks, pending := [] }

/-- Starts the section of a table. -/
def openTable (d : Document) (key : Key) : Except TomlFault Document := do
  let d := d.endSection
  if d.marks.isExplicit key || d.marks.isFrozen key then .error (.grammar .redefined)
  let root ← Table.update true .ok key d.root
  .ok { d with root, marks := .explicit key :: d.marks, header := key }

/-- Starts the section of a new item of an array of tables. -/
def openItem (d : Document) (key : Key) : Except TomlFault Document := do
  let d := d.endSection
  if d.marks.isFrozen key then .error (.grammar .frozen)
  match key.getLast? with
  | none => .error (.grammar .key)
  | some name =>
    let root ← Table.update true (·.appendTable name) key.dropLast d.root
    .ok { d with root, marks := .explicit key :: d.marks.clear key, header := key }

/-- The keys between the section and the last part of a dotted key. -/
def between (header key : Key) : List Key :=
  (List.range' 1 (key.length - 1)).map fun i => header ++ key.take i

/-- Arrays and inline tables are complete once they are written. -/
def isCompound : Value → Bool
  | .array _ | .table _ => true
  | _ => false

/-- Sets a key of the current section. -/
def assign (d : Document) (key : Key) (v : Value) : Except TomlFault Document := do
  let steps := between d.header key
  if steps.any d.marks.isExplicit then .error (.grammar .redefined)
  let parent := d.header ++ key.dropLast
  if d.marks.isFrozen parent then .error (.grammar .frozen)
  match key.getLast? with
  | none => .error (.grammar .key)
  | some name =>
    let root ← Table.update true (·.insertNew name v) parent d.root
    let marks := if isCompound v then .frozen (d.header ++ key) :: d.marks else d.marks
    .ok { d with root, marks, pending := d.pending ++ steps }

end Document

/-- Sets a key of an inline table. The marks are those of the inline table alone. -/
def assignInline (t : Table) (marks : Marks) (key : Key) (v : Value) : Except TomlFault Table := do
  if marks.isFrozen key then .error (.grammar .frozen)
  match key.getLast? with
  | none => .error (.grammar .key)
  | some name => Table.update false (·.insertNew name v) key.dropLast t

end LoanCheck.Toml

import LoanCheck.Config.Basic
import LoanCheck.Journal
import LoanCheck.Text.Numeral
import LoanCheck.Text.Utf8
import LoanCheck.Toml.Fault
import LoanCheck.Toml.Value
import LoanCheck.Files.Tree

/-!
# Configurations from tables

A configuration is written as tables of keys. What is not known is noted in the journal and otherwise
ignored. Known keys must have values of their type. `Config.ofTables` takes the tables apart into a flat
list of items first: whether an item is at fault, and what it changes, then depends on that item alone.
-/

namespace LoanCheck

open Toml (Value)

/-- The keys that can be set. -/
inductive Setting where
  | maxPasses
  | timeout
  | clangArgs
  | format
  | dotViewer
deriving DecidableEq, Repr

namespace Setting

def all : List Setting := [maxPasses, timeout, clangArgs, format, dotViewer]

/-- The table a key belongs to. -/
def table : Setting → String
  | maxPasses | timeout => "analysis"
  | clangArgs => "frontend"
  | format | dotViewer => "output"

def key : Setting → String
  | maxPasses => "max_passes"
  | timeout => "timeout_seconds"
  | clangArgs => "clang_args"
  | format => "format"
  | dotViewer => "dot_viewer"

def isTable (table : String) : Bool := all.any (·.table = table)

def find? (table key : String) : Option Setting :=
  all.find? fun s => s.table = table && s.key = key

/-- What the value of a key has to be. -/
def expectation : Setting → String
  | maxPasses => "an integer"
  | timeout => "a number"
  | clangArgs => "a list of strings"
  | format | dotViewer => "a string"

/-- The value at fault is shown, lists of arguments apart. -/
def showsValue : Setting → Bool
  | clangArgs => false
  | _ => true

end Setting

/-- Why no configuration can be had. -/
inductive ConfigFault where
  /-- The whole configuration is a value that has no keys. -/
  | noKeys (found : Value)
  | notTable (source table : String)
  | wrongType (setting : Setting) (shown : String)
  /-- A value of the wrong type that cannot be shown. -/
  | numeral (fault : Text.NumeralFault)
  /-- A whole number of seconds beyond all doubles. -/
  | timeoutRange
  | invalid (source : String) (problems : List ConfigProblem)
  | notFound (source : String)
  | toml (source : String) (fault : Toml.TomlFault)
  /-- The file is no text. -/
  | encoding (fault : Text.Utf8Fault)
  | path (fault : Files.PathFault)

def ConfigFault.message : ConfigFault → String
  | noKeys found => s!"'{found.kindWord}' object has no attribute 'items'"
  | notTable source table => s!"{source}: [{table}] must be a table"
  | wrongType s shown =>
    s!"[{s.table}] {s.key} must be {s.expectation}" ++
      (if s.showsValue then ", got " ++ shown else "")
  | numeral fault => fault.message
  | timeoutRange => "int too large to convert to float"
  | invalid source problems => source ++ ": " ++ ConfigProblem.messages problems
  | notFound source => "configuration file not found: " ++ source
  | toml _ (.numeral fault) => fault.message
  | toml source (.grammar reason) => source ++ ": invalid TOML: " ++ reason.message
  | encoding fault => fault.message
  | path fault => fault.message

/-- The nearest double of an integer, unless it is beyond all doubles. -/
def doubleOfInt? (i : Int) : Option Float :=
  let x := Text.DecimalNumber.nearestDouble i.natAbs 0
  if x.isInf then none else some (if i < 0 then -x else x)

/-- The texts of a list that holds nothing else. -/
def strings? (items : List Value) : Option (List String) :=
  items.mapM fun
    | .string s => some s
    | _ => none

/-- A converted value, as the change that it makes. -/
inductive Change where
  | maxPasses (limit : Option Int)
  | timeout (seconds : Float)
  | clangArgs (args : List String)
  | format (word : String)
  | dotViewer (program : String)

def Change.apply (c : Config) : Change → Config
  | maxPasses limit => { c with maxPasses := limit }
  | timeout seconds => { c with timeout := some seconds }
  | clangArgs args => { c with clangArgs := args }
  | format word => { c with outputFormat := word }
  | dotViewer program => { c with dotViewer := some program }

/-- The fault of a value of the wrong type. -/
def Setting.mismatch (s : Setting) (v : Value) : ConfigFault :=
  if s.showsValue && !v.isWritable then .numeral .unwritable else .wrongType s v.shown

/-- Converts the value of a key. Zero passes mean no limit, and whole numbers of seconds become doubles. -/
def Setting.convert (s : Setting) (v : Value) : Except ConfigFault Change :=
  match s, v with
  | .maxPasses, .int i => .ok (.maxPasses (if i = 0 then none else some i))
  | .timeout, .int i =>
    match doubleOfInt? i with
    | some x => .ok (.timeout x)
    | none => .error .timeoutRange
  | .timeout, .float x => .ok (.timeout x)
  | .clangArgs, .array items =>
    match strings? items with
    | some args => .ok (.clangArgs args)
    | none => .error (s.mismatch v)
  | .format, .string word => .ok (.format word)
  | .dotViewer, .string program => .ok (.dotViewer program)
  | _, _ => .error (s.mismatch v)

/-- One thing that the tables say. -/
inductive ConfigItem where
  | unknownTable (table : String)
  /-- The name of a known table with something else as its value. -/
  | noTable (table : String)
  | unknownKey (table key : String)
  | setting (setting : Setting) (value : Value)

namespace ConfigItem

/-- What a key of a known table says. -/
def ofKey (table : String) (entry : String × Value) : ConfigItem :=
  match Setting.find? table entry.1 with
  | some s => setting s entry.2
  | none => unknownKey table entry.1

/-- What a table says. -/
def ofTable (entry : String × Value) : List ConfigItem :=
  if Setting.isTable entry.1 then
    match entry.2 with
    | .table members => members.map (ofKey entry.1)
    | _ => [noTable entry.1]
  else [unknownTable entry.1]

/-- What is wrong with an item. -/
def fault? (source : String) : ConfigItem → Option ConfigFault
  | noTable table => some (.notTable source table)
  | setting s v =>
    match s.convert v with
    | .error e => some e
    | .ok _ => none
  | unknownTable _ | unknownKey _ _ => none

/-- What an item changes. -/
def apply (c : Config) : ConfigItem → Config
  | setting s v =>
    match s.convert v with
    | .ok change => change.apply c
    | .error _ => c
  | _ => c

/-- What is noted about an item. -/
def note? (source : String) : ConfigItem → Option Record
  | unknownTable table => some ⟨.warning, .config, s!"{source}: ignoring unknown table [{table}]"⟩
  | unknownKey table key =>
    some ⟨.warning, .config, s!"{source}: ignoring unknown key '{key}' in [{table}]"⟩
  | _ => none

end ConfigItem

namespace Config

/-- The configuration that a list of items makes, the first fault apart. -/
def ofItems (source : String) (items : List ConfigItem) : Except ConfigFault Config :=
  match items.findSome? (·.fault? source) with
  | some fault => .error fault
  | none =>
    let c : Config := items.foldl ConfigItem.apply {}
    if c.problems.isEmpty then .ok c else .error (.invalid source c.problems)

/-- The notes on a list of items, up to the first fault. -/
def itemNotes (source : String) (items : List ConfigItem) : Journal :=
  (items.takeWhile fun i => (i.fault? source).isNone).filterMap (·.note? source)

/-- The configuration of some tables. -/
def ofTables (source : String) (tables : Toml.Table) : Noted ConfigFault Config :=
  let items := tables.flatMap ConfigItem.ofTable
  ⟨itemNotes source items, ofItems source items⟩

/-- The configuration of a value, which has to be a table of tables. -/
def ofValue (source : String) : Value → Noted ConfigFault Config
  | .table tables => ofTables source tables
  | v => ⟨[], .error (.noKeys v)⟩

end Config

end LoanCheck

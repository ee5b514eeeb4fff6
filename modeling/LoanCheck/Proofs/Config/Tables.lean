import LoanCheck.Proofs.Decimal.WholeNumbers
import LoanCheck.Proofs.Lists
import Mathlib.Data.List.Perm.Basic
import Mathlib.Logic.Relation

/-!
# What tables say about a configuration

Tables describe a configuration key by key: each field has the value of its key, or its default (`described`). The
items of the tables say about a key what the tables give for it (`setting_mem_items_iff`), and making the changes of
all items leaves each field as the one item about its key makes it (`ConfigItem.field_foldl_apply_of_mem`). So tables
make the configuration that they describe if known tables are tables, known keys have values of their types and the
configuration has no problems; otherwise they make none (`outcome_eq_ok_iff`). All this depends neither on unknown
tables and keys nor on the order (`Revised.alike`).
-/

namespace LoanCheck

open Toml (Value)
open Relation (ReflTransGen)

/-! ## Fields -/

namespace Setting

/-- What a key sets. -/
def Field : Setting → Type
  | maxPasses => Option Int
  | timeout => Option Float
  | clangArgs => List String
  | format => String
  | dotViewer => Option String

theorem mem_all (s : Setting) : s ∈ all := by
  cases s <;> decide

theorem isTable_iff {table : String} : isTable table ↔ ∃ s : Setting, s.table = table := by
  simp [isTable, mem_all]

theorem find?_eq_some_iff {table key : String} {s : Setting} :
    find? table key = some s ↔ s.table = table ∧ s.key = key := by
  constructor
  · intro h
    simpa using List.find?_some h
  · rintro ⟨rfl, rfl⟩
    cases s <;> decide

/-- The values that a key can have. Booleans are no numbers. -/
inductive Admits : Setting → Value → Prop
  | maxPasses (limit : Int) : Admits maxPasses (.int limit)
  | wholeTimeout (seconds : Int) : Admits timeout (.int seconds)
  | timeout (seconds : Float) : Admits timeout (.float seconds)
  | clangArgs (args : List String) : Admits clangArgs (.array (args.map .string))
  | format (word : String) : Admits format (.string word)
  | dotViewer (program : String) : Admits dotViewer (.string program)

end Setting

namespace Config

/-- The field of a key. -/
def field (c : Config) : (s : Setting) → s.Field
  | .maxPasses => c.maxPasses
  | .timeout => c.timeout
  | .clangArgs => c.clangArgs
  | .format => c.outputFormat
  | .dotViewer => c.dotViewer

theorem eq_of_field {c c' : Config} (h : ∀ s, c.field s = c'.field s) : c = c' := by
  obtain ⟨_, _, _, _, _⟩ := c
  obtain ⟨_, _, _, _, _⟩ := c'
  cases h .maxPasses
  cases h .timeout
  cases h .clangArgs
  cases h .format
  cases h .dotViewer
  rfl

end Config

/-- The field that a value of a key stands for. Zero passes mean no limit, and a whole number of seconds is the double
next to it. -/
def Setting.reading : (s : Setting) → Value → s.Field
  | maxPasses, .int limit => if limit = 0 then none else some limit
  | timeout, .int seconds => some (Float.ofInt seconds)
  | timeout, .float seconds => some seconds
  | clangArgs, .array items => items.filterMap fun
    | .string arg => some arg
    | _ => none
  | format, .string word => word
  | dotViewer, .string program => some program
  | s, _ => ({} : Config).field s

/-! ## Conversions -/

theorem Setting.reading_strings (args : List String) :
    Setting.clangArgs.reading (.array (args.map .string)) = args := by
  show (args.map Value.string).filterMap _ = args
  rw [List.filterMap_map]
  exact List.filterMap_some

theorem strings?_eq_some_iff {items : List Value} {args : List String} :
    strings? items = some args ↔ items = args.map .string := by
  induction items generalizing args with
  | nil => cases args <;> simp [strings?]
  | cons v items ih =>
    rw [strings?] at ih
    cases v <;> cases args <;> simp [strings?, ih, Option.bind_eq_some_iff, and_comm]

/-- The key that a change is about. -/
def Change.setting : Change → Setting
  | maxPasses _ => .maxPasses
  | timeout _ => .timeout
  | clangArgs _ => .clangArgs
  | format _ => .format
  | dotViewer _ => .dotViewer

theorem Change.field_apply_of_ne {change : Change} {s : Setting} (h : change.setting ≠ s) (c : Config) :
    (change.apply c).field s = c.field s := by
  cases change <;> cases s
  case maxPasses.maxPasses | timeout.timeout | clangArgs.clangArgs | format.format | dotViewer.dotViewer =>
    exact absurd rfl h
  all_goals rfl

theorem Setting.of_convert {s : Setting} {v : Value} {change : Change} :
    s.convert v = .ok change →
      s.Admits v ∧ change.setting = s ∧ ∀ c : Config, (change.apply c).field s = s.reading v := by
  fun_cases Setting.convert s v
  all_goals
    intro h
    cases h
  case case1 limit => exact ⟨.maxPasses limit, rfl, fun _ => rfl⟩
  case case2 seconds x hx =>
    exact ⟨.wholeTimeout seconds, rfl, fun _ => congrArg some (eq_ofInt_of_doubleOfInt? hx)⟩
  case case4 seconds => exact ⟨.timeout seconds, rfl, fun _ => rfl⟩
  case case5 items hargs =>
    cases strings?_eq_some_iff.1 hargs
    exact ⟨.clangArgs _, rfl, fun _ => (Setting.reading_strings _).symm⟩
  case case7 word => exact ⟨.format word, rfl, fun _ => rfl⟩
  case case8 program => exact ⟨.dotViewer program, rfl, fun _ => rfl⟩

/-- Values of the right type are converted, whole numbers of seconds if they are in the range of doubles. -/
theorem Setting.Admits.exists_convert {s : Setting} {v : Value} (h : s.Admits v)
    (hrange : ∀ i, s = .timeout → v = .int i → i.natAbs < 2 ^ 1024 - 2 ^ 970) :
    ∃ change, s.convert v = .ok change := by
  cases h with
  | maxPasses limit => exact ⟨_, rfl⟩
  | wholeTimeout seconds =>
    obtain ⟨x, hx⟩ := Option.isSome_iff_exists.1 (isSome_doubleOfInt? (hrange seconds rfl rfl))
    exact ⟨.timeout x, by rw [Setting.convert, hx]⟩
  | timeout seconds => exact ⟨_, rfl⟩
  | clangArgs args => exact ⟨.clangArgs args, by rw [Setting.convert, strings?_eq_some_iff.2 rfl]⟩
  | format word => exact ⟨_, rfl⟩
  | dotViewer program => exact ⟨_, rfl⟩

/-! ## Items -/

namespace ConfigItem

theorem ofKey_eq_setting_iff {table : String} {entry : String × Value} {s : Setting} {v : Value} :
    ofKey table entry = setting s v ↔ s.table = table ∧ entry = (s.key, v) := by
  constructor
  · intro h
    rw [ofKey] at h
    cases hfind : Setting.find? table entry.1 with
    | none =>
      rw [hfind] at h
      cases h
    | some s' =>
      rw [hfind] at h
      cases h
      obtain ⟨htable, hkey⟩ := Setting.find?_eq_some_iff.1 hfind
      exact ⟨htable, Prod.ext hkey.symm rfl⟩
  · rintro ⟨rfl, rfl⟩
    rw [ofKey, Setting.find?_eq_some_iff.2 ⟨rfl, rfl⟩]

theorem ofKey_ne_noTable (table : String) (entry : String × Value) (name : String) :
    ofKey table entry ≠ noTable name := by
  rw [ofKey]
  cases Setting.find? table entry.1 <;> exact nofun

/-- A table is unknown, or known and a table, or known and something else. -/
theorem ofTable_cases (table : String) (v : Value) :
    (¬Setting.isTable table ∧ ofTable (table, v) = [unknownTable table]) ∨
      (Setting.isTable table ∧ ∃ members, v = .table members ∧ ofTable (table, v) = members.map (ofKey table)) ∨
      (Setting.isTable table ∧ (∀ members, v ≠ .table members) ∧ ofTable (table, v) = [noTable table]) := by
  by_cases hknown : Setting.isTable table
  · rw [ofTable, if_pos hknown]
    cases v with
    | table members => exact .inr (.inl ⟨hknown, members, rfl, rfl⟩)
    | nothing | bool _ | int _ | float _ | string _ | date _ | time _ | moment _ _ _ | array _ =>
      exact .inr (.inr ⟨hknown, nofun, rfl⟩)
  · exact .inl ⟨hknown, by rw [ofTable, if_neg hknown]⟩

theorem setting_mem_ofTable_iff {table : String} {w v : Value} {s : Setting} :
    setting s v ∈ ofTable (table, w) ↔ s.table = table ∧ ∃ members, w = .table members ∧ (s.key, v) ∈ members := by
  rcases ofTable_cases table w with ⟨hunknown, h⟩ | ⟨-, members, rfl, h⟩ | ⟨-, hother, h⟩
  · rw [h]
    refine ⟨by simp, fun ⟨htable, _⟩ => absurd (Setting.isTable_iff.2 ⟨s, htable⟩) hunknown⟩
  · rw [h]
    simp [ofKey_eq_setting_iff, and_comm]
  · rw [h]
    refine ⟨by simp, fun ⟨_, members, heq, _⟩ => absurd heq (hother members)⟩

theorem noTable_mem_ofTable_iff {table name : String} {w : Value} :
    noTable name ∈ ofTable (table, w) ↔ name = table ∧ Setting.isTable table ∧ ∀ members, w ≠ .table members := by
  rcases ofTable_cases table w with ⟨hunknown, h⟩ | ⟨-, members, rfl, h⟩ | ⟨hknown, hother, h⟩
  · rw [h]
    refine ⟨by simp, fun ⟨_, hknown, _⟩ => absurd hknown hunknown⟩
  · rw [h]
    refine ⟨fun hmem => ?_, fun ⟨_, _, hother⟩ => absurd rfl (hother members)⟩
    obtain ⟨entry, -, heq⟩ := List.mem_map.1 hmem
    exact absurd heq (ofKey_ne_noTable table entry name)
  · rw [h]
    simp [hknown, hother]

theorem fault?_eq_none_iff {source : String} {item : ConfigItem} : item.fault? source = none ↔
    (∀ name, item ≠ noTable name) ∧ ∀ s v, item = setting s v → ∃ change, s.convert v = .ok change := by
  cases item with
  | unknownTable _ | unknownKey _ _ => simp [fault?]
  | noTable name => simp [fault?]
  | setting s v =>
    rw [fault?]
    cases hconvert : s.convert v with
    | error _ => exact ⟨nofun, fun h => by obtain ⟨_, hok⟩ := h.2 s v rfl; cases hconvert.symm.trans hok⟩
    | ok change => exact ⟨fun _ => ⟨nofun, fun _ _ heq => by cases heq; exact ⟨change, hconvert⟩⟩, fun _ => rfl⟩

/-- An item about another key leaves the field of a key. -/
theorem field_apply_of_ne {item : ConfigItem} {s : Setting} (h : ∀ v, item ≠ setting s v) (c : Config) :
    (apply c item).field s = c.field s := by
  cases item with
  | setting s' v =>
    rw [apply]
    cases hconvert : s'.convert v with
    | error _ => rfl
    | ok change =>
      refine change.field_apply_of_ne (fun hsame => h v ?_) c
      rw [← hsame, (Setting.of_convert hconvert).2.1]
  | unknownTable _ | noTable _ | unknownKey _ _ => rfl

theorem field_foldl_apply_of_not_mem {s : Setting} {items : List ConfigItem} (h : ∀ v, setting s v ∉ items)
    (c : Config) : (items.foldl apply c).field s = c.field s := by
  induction items generalizing c with
  | nil => rfl
  | cons item items ih =>
    rw [List.foldl_cons, ih fun v hv => h v (List.mem_cons_of_mem _ hv)]
    exact field_apply_of_ne (fun v hv => h v (hv ▸ List.mem_cons_self)) c

/-- The only value for a key makes the field of that key. -/
theorem field_foldl_apply_of_mem {s : Setting} {v : Value} {change : Change} (hconvert : s.convert v = .ok change)
    {items : List ConfigItem} (hsole : ∀ w, setting s w ∈ items → w = v) (hmem : setting s v ∈ items)
    (c : Config) : (items.foldl apply c).field s = s.reading v := by
  induction items generalizing c with
  | nil => cases hmem
  | cons item items ih =>
    have hsole' : ∀ w, setting s w ∈ items → w = v := fun w hw => hsole w (List.mem_cons_of_mem _ hw)
    rw [List.foldl_cons]
    by_cases hlater : setting s v ∈ items
    · exact ih hsole' hlater _
    · -- no item after the first one is about the key
      rw [field_foldl_apply_of_not_mem fun w hw => hlater (hsole' w hw ▸ hw)]
      cases (List.mem_cons.1 hmem).resolve_right hlater
      rw [apply, hconvert]
      exact (Setting.of_convert hconvert).2.2 c

end ConfigItem

/-! ## Tables -/

namespace Config

/-- Each key stands once, as in a mapping. -/
structure IsMapping (tables : Toml.Table) : Prop where
  names : (tables.map Prod.fst).Nodup
  keys : ∀ name members, (name, .table members) ∈ tables → (members.map Prod.fst).Nodup

/-- The value of a key, if it is present. -/
def given (tables : Toml.Table) (s : Setting) : Option Value :=
  match tables.lookup s.table with
  | some (.table members) => members.lookup s.key
  | _ => none

/-- The field of a key is the value of the key, or has its default. -/
def fieldOf (tables : Toml.Table) (s : Setting) : s.Field :=
  match given tables s with
  | some v => s.reading v
  | none => ({} : Config).field s

/-- The configuration that tables describe. -/
def described (tables : Toml.Table) : Config where
  maxPasses := fieldOf tables .maxPasses
  timeout := fieldOf tables .timeout
  clangArgs := fieldOf tables .clangArgs
  outputFormat := fieldOf tables .format
  dotViewer := fieldOf tables .dotViewer

theorem field_described (tables : Toml.Table) (s : Setting) : (described tables).field s = fieldOf tables s := by
  cases s <;> rfl

/-- Known tables are tables, and known keys have values of their types. -/
structure IsTyped (tables : Toml.Table) : Prop where
  isTable : ∀ (s : Setting) v, tables.lookup s.table = some v → ∃ members, v = .table members
  admits : ∀ s v, given tables s = some v → s.Admits v

/-- A whole number of seconds has a double. -/
def InRange (tables : Toml.Table) : Prop :=
  ∀ i, given tables .timeout = some (.int i) → i.natAbs < 2 ^ 1024 - 2 ^ 970

theorem isTyped_iff {tables : Toml.Table} (hrange : InRange tables) : IsTyped tables ↔
    (∀ (s : Setting) v, tables.lookup s.table = some v → ∃ members, v = .table members) ∧
      ∀ s v, given tables s = some v → ∃ change, s.convert v = .ok change := by
  constructor
  · refine fun htyped => ⟨htyped.isTable, fun s v hgiven => (htyped.admits s v hgiven).exists_convert ?_⟩
    rintro i rfl rfl
    exact hrange i hgiven
  · rintro ⟨htables, hvalues⟩
    refine ⟨htables, fun s v hgiven => ?_⟩
    obtain ⟨change, hconvert⟩ := hvalues s v hgiven
    exact (Setting.of_convert hconvert).1

section Items

variable {tables : Toml.Table} (h : IsMapping tables)

include h

theorem given_eq_some_iff {s : Setting} {v : Value} : given tables s = some v ↔
    ∃ members, (s.table, .table members) ∈ tables ∧ (s.key, v) ∈ members := by
  constructor
  · fun_cases given tables s with
    | case1 members hlookup =>
      intro hkey
      have htable := (lookup_eq_some_iff_mem h.names).1 hlookup
      exact ⟨members, htable, (lookup_eq_some_iff_mem (h.keys _ _ htable)).1 hkey⟩
    | case2 => exact nofun
  · rintro ⟨members, htable, hkey⟩
    rw [given, (lookup_eq_some_iff_mem h.names).2 htable]
    exact (lookup_eq_some_iff_mem (h.keys _ _ htable)).2 hkey

/-- The items say about a key what the tables give for it. -/
theorem setting_mem_items_iff {s : Setting} {v : Value} :
    .setting s v ∈ tables.flatMap ConfigItem.ofTable ↔ given tables s = some v := by
  rw [given_eq_some_iff h, List.mem_flatMap]
  constructor
  · rintro ⟨⟨table, w⟩, hentry, hitem⟩
    obtain ⟨rfl, members, rfl, hkey⟩ := ConfigItem.setting_mem_ofTable_iff.1 hitem
    exact ⟨members, hentry, hkey⟩
  · rintro ⟨members, hentry, hkey⟩
    exact ⟨_, hentry, ConfigItem.setting_mem_ofTable_iff.2 ⟨rfl, members, rfl, hkey⟩⟩

theorem findSome?_fault?_eq_none_iff (source : String) :
    (tables.flatMap ConfigItem.ofTable).findSome? (·.fault? source) = none ↔
      (∀ (s : Setting) v, tables.lookup s.table = some v → ∃ members, v = .table members) ∧
        ∀ s v, given tables s = some v → ∃ change, s.convert v = .ok change := by
  simp only [List.findSome?_eq_none_iff, ConfigItem.fault?_eq_none_iff]
  constructor
  · intro hitems
    refine ⟨fun s v hlookup => ?_, fun s v hgiven => ?_⟩
    · by_contra hother
      have hentry := (lookup_eq_some_iff_mem h.names).1 hlookup
      have hitem : .noTable s.table ∈ ConfigItem.ofTable (s.table, v) :=
        ConfigItem.noTable_mem_ofTable_iff.2
          ⟨rfl, Setting.isTable_iff.2 ⟨s, rfl⟩, fun members heq => hother ⟨members, heq⟩⟩
      exact (hitems _ (List.mem_flatMap.2 ⟨_, hentry, hitem⟩)).1 _ rfl
    · exact (hitems _ ((setting_mem_items_iff h).2 hgiven)).2 s v rfl
  · rintro ⟨htables, hvalues⟩ item hitem
    refine ⟨?_, ?_⟩
    · rintro name rfl
      obtain ⟨⟨table, w⟩, hentry, hitem⟩ := List.mem_flatMap.1 hitem
      obtain ⟨-, hknown, hother⟩ := ConfigItem.noTable_mem_ofTable_iff.1 hitem
      obtain ⟨s, rfl⟩ := Setting.isTable_iff.1 hknown
      obtain ⟨members, rfl⟩ := htables s w ((lookup_eq_some_iff_mem h.names).2 hentry)
      exact hother members rfl
    · rintro s v rfl
      exact hvalues s v ((setting_mem_items_iff h).1 hitem)

theorem foldl_apply_eq_described (hvalues : ∀ s v, given tables s = some v → ∃ change, s.convert v = .ok change) :
    (tables.flatMap ConfigItem.ofTable).foldl ConfigItem.apply {} = described tables := by
  refine eq_of_field fun s => ?_
  rw [field_described, fieldOf]
  cases hgiven : given tables s with
  | none =>
    refine ConfigItem.field_foldl_apply_of_not_mem (fun v hv => ?_) {}
    rw [setting_mem_items_iff h, hgiven] at hv
    cases hv
  | some v =>
    obtain ⟨change, hconvert⟩ := hvalues s v hgiven
    refine ConfigItem.field_foldl_apply_of_mem hconvert (fun w hw => ?_) ((setting_mem_items_iff h).2 hgiven) {}
    rw [setting_mem_items_iff h, hgiven] at hw
    exact (Option.some.inj hw).symm

/-- Tables make the configuration that they describe if they are typed and it has no problems, and none
otherwise. -/
theorem outcome_eq_ok_iff (hrange : InRange tables) {source : String} {c : Config} :
    (ofTables source tables).outcome = .ok c ↔
      IsTyped tables ∧ (described tables).problems = [] ∧ c = described tables := by
  have htyped := (isTyped_iff hrange).trans (findSome?_fault?_eq_none_iff h source).symm
  rw [htyped, ofTables, ofItems]
  cases hfault : (tables.flatMap ConfigItem.ofTable).findSome? (·.fault? source) with
  | some fault => exact ⟨nofun, nofun⟩
  | none =>
    rw [foldl_apply_eq_described h ((findSome?_fault?_eq_none_iff h source).1 hfault).2]
    by_cases hproblems : (described tables).problems = []
    · simp [hproblems, eq_comm]
    · simp [hproblems]

end Items

/-! ## Revisions -/

/-- A change that a configuration does not depend on. -/
inductive Revised : Toml.Table → Toml.Table → Prop
  | reorderTables {tables tables' : Toml.Table} : tables.Perm tables' → Revised tables tables'
  | reorderKeys {before after : Toml.Table} {name : String} {members members' : Toml.Table} :
      members.Perm members' →
        Revised (before ++ (name, .table members) :: after) (before ++ (name, .table members') :: after)
  | removeTable {before after : Toml.Table} {name : String} {v : Value} :
      (∀ s : Setting, s.table ≠ name) → Revised (before ++ (name, v) :: after) (before ++ after)
  | removeKey {before after : Toml.Table} {name : String} {left right : Toml.Table} {key : String} {v : Value} :
      (∀ s : Setting, s.table = name → s.key ≠ key) →
        Revised (before ++ (name, .table (left ++ (key, v) :: right)) :: after)
          (before ++ (name, .table (left ++ right)) :: after)

/-- The tables say the same about a key. -/
inductive Alike (s : Setting) (tables tables' : Toml.Table) : Prop
  | same : tables'.lookup s.table = tables.lookup s.table → Alike s tables tables'
  | members {members members' : Toml.Table} : tables.lookup s.table = some (.table members) →
      tables'.lookup s.table = some (.table members') → members'.lookup s.key = members.lookup s.key →
        Alike s tables tables'

namespace Alike

variable {s : Setting} {tables tables' : Toml.Table}

theorem symm (h : Alike s tables tables') : Alike s tables' tables := by
  cases h with
  | same h => exact .same h.symm
  | members h h' hkey => exact .members h' h hkey.symm

theorem given_eq (h : Alike s tables tables') : given tables' s = given tables s := by
  cases h with
  | same h => rw [given, given, h]
  | members h h' hkey =>
    rw [given, given, h, h']
    exact hkey

theorem isTable (h : Alike s tables tables')
    (htable : ∀ v, tables.lookup s.table = some v → ∃ members, v = .table members) {v : Value}
    (hv : tables'.lookup s.table = some v) : ∃ members, v = .table members := by
  cases h with
  | same h => exact htable v (h ▸ hv)
  | members _ h' _ => exact ⟨_, (Option.some.inj (h'.symm.trans hv)).symm⟩

/-- Another list of keys in one table changes nothing if it gives the same value for the key. -/
theorem replace {before after : Toml.Table} {name : String} {members members' : Toml.Table}
    (h : s.table = name → members'.lookup s.key = members.lookup s.key) :
    Alike s (before ++ (name, .table members) :: after) (before ++ (name, .table members') :: after) := by
  cases hbefore : before.lookup s.table with
  | some v => exact .same (by rw [List.lookup_append, List.lookup_append, hbefore]; rfl)
  | none =>
    by_cases hname : s.table = name
    · subst hname
      have hfound (v : Value) : (before ++ (s.table, v) :: after).lookup s.table = some v := by
        rw [List.lookup_append, hbefore, List.lookup_cons_self]
        rfl
      exact .members (hfound _) (hfound _) (h rfl)
    · refine .same ?_
      rw [List.lookup_append, List.lookup_append, List.lookup_cons, List.lookup_cons, beq_eq_false_iff_ne.2 hname]

end Alike

theorem IsTyped.of_alike {tables tables' : Toml.Table} (h : IsTyped tables) (halike : ∀ s, Alike s tables tables') :
    IsTyped tables' where
  isTable s _ hv := (halike s).isTable (h.isTable s) hv
  admits s v hv := h.admits s v ((halike s).given_eq ▸ hv)

theorem lookup_remove {left right : Toml.Table} {key name : String} {v : Value} (h : name ≠ key) :
    (left ++ right).lookup name = (left ++ (key, v) :: right).lookup name := by
  rw [List.lookup_append, List.lookup_append, List.lookup_cons, beq_eq_false_iff_ne.2 h]

namespace IsMapping

theorem members {before after : Toml.Table} {name : String} {members : Toml.Table}
    (h : IsMapping (before ++ (name, .table members) :: after)) : (members.map Prod.fst).Nodup :=
  h.keys name members (by simp)

theorem replace {before after : Toml.Table} {name : String} {members members' : Toml.Table}
    (h : IsMapping (before ++ (name, .table members) :: after)) (hmembers : (members'.map Prod.fst).Nodup) :
    IsMapping (before ++ (name, .table members') :: after) where
  names := by simpa using h.names
  keys name' members'' hentry := by
    rcases List.mem_append.1 hentry with hbefore | hrest
    · exact h.keys _ _ (List.mem_append_left _ hbefore)
    rcases List.mem_cons.1 hrest with heq | hafter
    · cases heq
      exact hmembers
    · exact h.keys _ _ (List.mem_append_right _ (List.mem_cons_of_mem _ hafter))

theorem sublist {tables tables' : Toml.Table} (h : IsMapping tables) (hsub : tables'.Sublist tables) :
    IsMapping tables' where
  names := (hsub.map Prod.fst).nodup h.names
  keys name members hentry := h.keys name members (hsub.subset hentry)

end IsMapping

namespace Revised

variable {tables tables' : Toml.Table}

theorem isMapping (hstep : Revised tables tables') (h : IsMapping tables) : IsMapping tables' := by
  cases hstep with
  | reorderTables hperm =>
    exact ⟨(hperm.map Prod.fst).nodup_iff.1 h.names,
      fun name members hentry => h.keys name members (hperm.mem_iff.2 hentry)⟩
  | reorderKeys hperm => exact h.replace ((hperm.map Prod.fst).nodup_iff.1 h.members)
  | removeTable _ => exact h.sublist (List.Sublist.append_left (List.sublist_cons_self _ _) _)
  | removeKey _ =>
    refine h.replace (List.Sublist.nodup ?_ h.members)
    exact (List.Sublist.append_left (List.sublist_cons_self _ _) _).map Prod.fst

/-- A revised table says the same about each key. -/
theorem alike (hstep : Revised tables tables') (h : IsMapping tables) (s : Setting) : Alike s tables tables' := by
  cases hstep with
  | reorderTables hperm => exact .same (lookup_eq_of_perm h.names hperm s.table)
  | reorderKeys hperm => exact .replace fun _ => lookup_eq_of_perm h.members hperm s.key
  | removeTable hunknown => exact .same (lookup_remove (hunknown s))
  | removeKey hunknown => exact .replace fun htable => lookup_remove (hunknown s htable)

theorem inRange (hstep : Revised tables tables') (h : IsMapping tables) (hrange : InRange tables) : InRange tables' :=
  fun i hi => hrange i ((hstep.alike h .timeout).given_eq ▸ hi)

theorem described_eq (hstep : Revised tables tables') (h : IsMapping tables) :
    described tables' = described tables := by
  refine eq_of_field fun s => ?_
  rw [field_described, field_described, fieldOf, fieldOf, (hstep.alike h s).given_eq]

/-- One revision changes neither whether there is a configuration nor which one. -/
theorem outcome_eq_ok_iff (hstep : Revised tables tables') (h : IsMapping tables) (hrange : InRange tables)
    {source : String} {c : Config} :
    (ofTables source tables').outcome = .ok c ↔ (ofTables source tables).outcome = .ok c := by
  have htyped : IsTyped tables' ↔ IsTyped tables :=
    ⟨fun h' => h'.of_alike fun s => (hstep.alike h s).symm, fun h' => h'.of_alike fun s => hstep.alike h s⟩
  rw [Config.outcome_eq_ok_iff (hstep.isMapping h) (hstep.inRange h hrange), Config.outcome_eq_ok_iff h hrange,
    htyped, hstep.described_eq h]

end Revised

/-- Any number of revisions change neither whether there is a configuration nor which one. -/
theorem outcome_eq_ok_iff_of_revised {tables tables' : Toml.Table} (hsteps : ReflTransGen Revised tables tables')
    (h : IsMapping tables) (hrange : InRange tables) (source : String) (c : Config) :
    (ofTables source tables').outcome = .ok c ↔ (ofTables source tables).outcome = .ok c := by
  induction hsteps using ReflTransGen.head_induction_on with
  | refl => rfl
  | head hstep _ ih =>
    exact (ih (hstep.isMapping h) (hstep.inRange h hrange)).trans (hstep.outcome_eq_ok_iff h hrange)

/-- Whether tables make a configuration, and which one, does not change when what is unknown is removed or when tables
or keys are reordered. They make one if they are typed and describe one without problems, and then that one. -/
theorem outcome_ofTables_described (source : String) {tables : Toml.Table} (h : IsMapping tables)
    (hrange : InRange tables) :
    (∀ tables', ReflTransGen Revised tables tables' →
        ∀ c, (ofTables source tables').outcome = .ok c ↔ (ofTables source tables).outcome = .ok c) ∧
      ((∃ c, (ofTables source tables).outcome = .ok c) ↔ IsTyped tables ∧ (described tables).problems = []) ∧
      ∀ c, (ofTables source tables).outcome = .ok c → (∀ s, c.field s = fieldOf tables s) ∧ c.problems = [] := by
  refine ⟨fun tables' hsteps => outcome_eq_ok_iff_of_revised hsteps h hrange source, ?_, fun c hc => ?_⟩
  · constructor
    · rintro ⟨c, hc⟩
      obtain ⟨htyped, hproblems, -⟩ := (outcome_eq_ok_iff h hrange).1 hc
      exact ⟨htyped, hproblems⟩
    · rintro ⟨htyped, hproblems⟩
      exact ⟨_, (outcome_eq_ok_iff h hrange).2 ⟨htyped, hproblems, rfl⟩⟩
  · obtain ⟨-, hproblems, rfl⟩ := (outcome_eq_ok_iff h hrange).1 hc
    exact ⟨field_described tables, hproblems⟩

/-- Tables with an unknown table, an unknown key and a whole number of seconds. -/
def mixed : Toml.Table :=
  [("plugins", .int 1), ("output", .table [("format", .string "json")]),
    ("analysis", .table [("widening", .int 2), ("timeout_seconds", .int 3), ("max_passes", .int 0)])]

/-- The known keys of `mixed`, in another order. -/
def tidied : Toml.Table :=
  [("analysis", .table [("max_passes", .int 0), ("timeout_seconds", .int 3)]),
    ("output", .table [("format", .string "json")])]

theorem isMapping_mixed : IsMapping mixed where
  names := by decide
  keys name members h := by
    simp only [mixed, List.mem_cons, Prod.mk.injEq, reduceCtorEq, Value.table.injEq, and_false, false_or,
      List.not_mem_nil, or_false] at h
    rcases h with ⟨-, rfl⟩ | ⟨-, rfl⟩ <;> decide

theorem inRange_mixed : InRange mixed := by
  intro i hi
  cases hi
  decide +kernel

theorem revised_mixed : ReflTransGen Revised mixed tidied := by
  have htable : Revised mixed (mixed.drop 1) :=
    @Revised.removeTable [] _ _ _ fun s => by cases s <;> decide
  have hkey : Revised (mixed.drop 1) [("output", .table [("format", .string "json")]),
      ("analysis", .table [("timeout_seconds", .int 3), ("max_passes", .int 0)])] :=
    @Revised.removeKey [_] [] _ [] _ _ _ fun s _ => by cases s <;> decide
  have hkeys : Revised [("output", .table [("format", .string "json")]),
      ("analysis", .table [("timeout_seconds", .int 3), ("max_passes", .int 0)])] tidied.reverse :=
    @Revised.reorderKeys [_] [] _ _ _ (.swap ..)
  exact .head htable (.head hkey (.head hkeys (.single (.reorderTables (List.reverse_perm _)))))

theorem isTyped_mixed : IsTyped mixed where
  isTable s v h := by
    cases s <;> cases h
    all_goals exact ⟨_, rfl⟩
  admits s v h := by
    cases s <;> cases h
    · exact .maxPasses 0
    · exact .wholeTimeout 3
    · exact .format "json"

theorem outcome_ofTables_described_mixed : IsMapping mixed ∧ InRange mixed ∧ ReflTransGen Revised mixed tidied ∧
    ∃ c, (ofTables "loans.toml" mixed).outcome = .ok c ∧ (ofTables "loans.toml" tidied).outcome = .ok c ∧
      c.maxPasses = none ∧ c.timeout = some 3.0 ∧ c.clangArgs = [] ∧ c.outputFormat = "json" ∧
      c.problems = [] := by
  obtain ⟨hrevised, hexists, hfields⟩ := outcome_ofTables_described "loans.toml" isMapping_mixed inRange_mixed
  obtain ⟨c, hc⟩ := hexists.2 ⟨isTyped_mixed, by decide +kernel⟩
  obtain ⟨hfield, hproblems⟩ := hfields c hc
  have hthree : Float.ofInt 3 = 3.0 := by decide +kernel
  exact ⟨isMapping_mixed, inRange_mixed, revised_mixed, c, hc, (hrevised _ revised_mixed c).2 hc, hfield .maxPasses,
    (hfield .timeout).trans (congrArg some hthree), hfield .clangArgs, hfield .format, hproblems⟩

end Config

end LoanCheck

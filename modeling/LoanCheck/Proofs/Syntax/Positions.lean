import LoanCheck.Syntax.Lookup
import Mathlib.Logic.Basic

/-!
# Functions and their positions

A function that the source file defines stands at a line and a column of it, and a locator can name that place. The
functions are listed among the declarations at the top level of the source file, but a place is looked for among all
functions of the unit, those of included files too, and the file that a locator names is not looked at. So the place of
a function leads to it, if no other function of the source file starts there, exactly if it is not hidden by a function
of another file that starts at the same line and column of that file and comes first (`find_placed_iff`).
-/

namespace LoanCheck.Syntax

namespace Cursor

theorem mem_preorder_self (c : Cursor) : c ∈ c.preorder := by
  cases c
  rw [preorder]
  exact List.mem_cons_self

/-- The walk over some nodes comes by each of them. -/
theorem mem_preorderAll {c : Cursor} : ∀ {cs : List Cursor}, c ∈ cs → c ∈ preorderAll cs
  | d :: cs, h => by
    rw [preorderAll, List.mem_append]
    rcases List.mem_cons.1 h with rfl | h
    · exact .inl c.mem_preorder_self
    · exact .inr (mem_preorderAll h)

/-- A function that starts at the line, and at the column if there is one. -/
structure IsFunctionAt (c : Cursor) (line : Int) (column : Option Int) : Prop where
  isFunction : c.isFunction = true
  line_eq : c.position.line = line
  column_eq : ∀ k ∈ column, c.position.column = k

end Cursor

namespace SourceUnit

variable {u : SourceUnit} {f c : Cursor} {line : Int} {column : Option Int}

/-- The locator of a place in the source file. -/
def placed (u : SourceUnit) (line : Int) (column : Option Int) : Locator :=
  { file := u.spelling, line := some line, column }

/-- No other function of the source file starts at the line of the function, and at the column if there is one. -/
def IsSoleAt (u : SourceUnit) (f : Cursor) (column : Option Int) : Prop :=
  ∀ c ∈ Cursor.preorderAll u.declarations, c.IsFunctionAt f.position.line column → u.inMainFile c = true → c = f

/-- The first function that starts at the line, and at the column if there is one, is of another file and no
declaration of the function. -/
def IsHiddenAt (u : SourceUnit) (f : Cursor) (column : Option Int) : Prop :=
  ∃ before c after, Cursor.preorderAll u.declarations = before ++ c :: after ∧
    (∀ b ∈ before, ¬b.IsFunctionAt f.position.line column) ∧ c.IsFunctionAt f.position.line column ∧
    u.inMainFile c = false ∧ (c.isDefinition = false → c.definition ≠ some f)

theorem isFunctionAt_iff :
    (c.isFunction && startsAt c (some line) column) = true ↔ c.IsFunctionAt line column := by
  cases column with
  | none => simpa [startsAt] using ⟨fun h => ⟨h.1, h.2, nofun⟩, fun h => ⟨h.isFunction, h.line_eq⟩⟩
  | some k =>
    simpa [startsAt] using
      ⟨fun h => ⟨h.1, h.2.1, by simpa using h.2.2⟩, fun h => ⟨h.isFunction, h.line_eq, h.column_eq k rfl⟩⟩

/-- A place names the first function of the walk that starts there. -/
theorem declaration?_placed_eq_some_iff : u.declaration? (u.placed line column) = some c ↔
    c.IsFunctionAt line column ∧ ∃ before after, Cursor.preorderAll u.declarations = before ++ c :: after ∧
      ∀ b ∈ before, ¬b.IsFunctionAt line column := by
  simp only [declaration?, placed, List.find?_eq_some_iff_append, isFunctionAt_iff, Bool.not_eq_true',
    ← Bool.not_eq_true, isFunctionAt_iff]

theorem isHiddenAt_iff (h : u.declaration? (u.placed f.position.line column) = some c) :
    u.IsHiddenAt f column ↔ u.inMainFile c = false ∧ (c.isDefinition = false → c.definition ≠ some f) := by
  constructor
  · rintro ⟨before, c', after, hwalk, hbefore, hc', hhidden⟩
    rw [declaration?_placed_eq_some_iff.2 ⟨hc', before, after, hwalk, hbefore⟩] at h
    cases h
    exact hhidden
  · obtain ⟨hc, before, after, hwalk, hbefore⟩ := declaration?_placed_eq_some_iff.1 h
    exact fun hhidden => ⟨before, c, after, hwalk, hbefore, hc, hhidden⟩

/-- A locator leads to the declaration that it names, or to the definition of that. -/
theorem find_eq_ok_iff {l : Locator} (h : u.declaration? l = some c) : u.find l = .ok f ↔
    c.isDefinition = true ∧ c = f ∨ c.isDefinition = false ∧ c.definition = some f := by
  rw [find, h]
  cases hdefined : c.isDefinition with
  | true => simp [hdefined]
  | false => cases hdefinition : c.definition <;> simp [hdefined, hdefinition]

theorem mem_functions : f ∈ u.functions ↔
    f ∈ u.declarations ∧ f.isFunction = true ∧ f.isDefinition = true ∧ u.inMainFile f = true := by
  simp [functions, and_assoc]

/-- The place of a function leads to it exactly if it is not hidden. -/
theorem find_placed_iff (hf : f ∈ u.functions) (hcolumn : ∀ k ∈ column, f.position.column = k)
    (hsole : u.IsSoleAt f column) :
    u.find (u.placed f.position.line column) = .ok f ↔ ¬u.IsHiddenAt f column := by
  obtain ⟨hmem, hfunction, hdefined, hmain⟩ := mem_functions.1 hf
  have hat : f.IsFunctionAt f.position.line column := ⟨hfunction, rfl, hcolumn⟩
  cases hdeclaration : u.declaration? (u.placed f.position.line column) with
  | none =>
    -- the walk comes by the function itself
    exact absurd (isFunctionAt_iff.2 hat) (List.find?_eq_none.1 hdeclaration f (Cursor.mem_preorderAll hmem))
  | some c =>
    rw [isHiddenAt_iff hdeclaration, find_eq_ok_iff hdeclaration]
    obtain ⟨hc, before, after, hwalk, -⟩ := declaration?_placed_eq_some_iff.1 hdeclaration
    cases hfile : u.inMainFile c with
    | true =>
      obtain rfl : c = f := hsole c (by rw [hwalk]; simp) hc hfile
      simp [hdefined]
    | false =>
      have hne : c ≠ f := by
        rintro rfl
        rw [hmain] at hfile
        cases hfile
      simp [hne]

/-! ## A header in front -/

/-- A function at line 3 and column 5 of a file, which is its own definition or has the given one. -/
def functionIn (file name : String) (definition : Option Cursor) : Cursor :=
  .mk .function name [] [] none ⟨some file, 3, 5⟩ definition.isNone definition none []

/-- A source file that defines the function `f` behind a header with one function. -/
def behindHeader (header : Cursor) : SourceUnit where
  spelling := "a.c"
  declarations := [header, functionIn "a.c" "f" none]

theorem isSoleAt_behindHeader {name : String} {definition : Option Cursor} (column : Option Int) :
    (behindHeader (functionIn "a.h" name definition)).IsSoleAt (functionIn "a.c" "f" none) column := by
  intro c hc _ hfile
  rcases List.mem_cons.1 hc with rfl | hc
  · have hforeign : ("a.c".isEmpty || decide ("a.h" = "a.c")) = false := by decide
    exact absurd (hforeign.symm.trans hfile) Bool.false_ne_true
  · exact List.mem_singleton.1 hc

/-- The header declares the function at the same place. -/
theorem find_placed_iff_declared : ∃ u : SourceUnit, ∃ f, u.functions = [f] ∧ u.IsSoleAt f (some 5) ∧
    ¬u.IsHiddenAt f (some 5) ∧ u.declarations ≠ [f] ∧ u.find (u.placed 3 (some 5)) = .ok f := by
  have hfunctions : (behindHeader (functionIn "a.h" "f" (functionIn "a.c" "f" none))).functions =
      [functionIn "a.c" "f" none] := rfl
  have hhidden : ¬(behindHeader (functionIn "a.h" "f" (functionIn "a.c" "f" none))).IsHiddenAt
      (functionIn "a.c" "f" none) (some 5) :=
    fun h => ((isHiddenAt_iff rfl).1 h).2 rfl rfl
  refine ⟨_, _, hfunctions, isSoleAt_behindHeader _, hhidden, by simp [behindHeader], ?_⟩
  exact (find_placed_iff (hfunctions ▸ List.mem_cons_self) (fun _ hk => Option.some.inj hk)
    (isSoleAt_behindHeader _)).2 hhidden

/-- The header has another function at the same place, and that is found, with the column and without. -/
theorem find_placed_header : ∃ u : SourceUnit, ∃ f g, u.functions = [f] ∧ u.IsSoleAt f (some 5) ∧ u.IsSoleAt f none ∧
    f.position = ⟨some "a.c", 3, 5⟩ ∧ g ≠ f ∧
    u.find (u.placed 3 (some 5)) = .ok g ∧ u.find (u.placed 3 none) = .ok g := by
  refine ⟨behindHeader (functionIn "a.h" "g" none), functionIn "a.c" "f" none, functionIn "a.h" "g" none, rfl,
    isSoleAt_behindHeader _, isSoleAt_behindHeader _, rfl, ?_, rfl, rfl⟩
  simp [functionIn]

end SourceUnit

end LoanCheck.Syntax

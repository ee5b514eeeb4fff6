import LoanCheck.Proofs.Lists
import LoanCheck.Session
import Mathlib.Data.List.Perm.Basic

/-!
# Which function gets which facts

The forms of a facts file are told apart by the function they name (`byFunction_eq_ok_iff`), and are given to names of
functions (`mem_assignFacts_iff`). The functions of a source unit then take the facts of their names in turn, and
nothing is lost on the way: what is taken and what is left over are all the facts there were (`perm_pairUp`).

So a form is lost only if it is `Displaced` : it names the only function, and a form without a name goes to that
function in its place. Every other form goes to exactly one function, or its name is noted in the journal
(`facts_lost_iff_displaced`).
-/

namespace LoanCheck

open Facts Solver Syntax

/-! ## Forms under names -/

namespace Facts

theorem foldlM_byFunction (sets : List FactSet) {index index' : List (Option String × FactSet)} :
    sets.foldlM (fun index fs =>
      if index.any (·.1 == fs.function) then .error (.duplicate fs.function)
      else .ok (index ++ [(fs.function, fs)])) index =
      (.ok index' : Except FactsFault _) ↔
      (sets.map (·.function)).Nodup ∧ (∀ fs ∈ sets, fs.function ∉ index.map Prod.fst) ∧
        index' = index ++ sets.map fun fs => (fs.function, fs) := by
  induction sets generalizing index with
  | nil =>
    constructor
    · rintro ⟨⟩
      simp
    · rintro ⟨-, -, rfl⟩
      simp [pure, Except.pure]
  | cons fs sets ih =>
    have hany : index.any (·.1 == fs.function) = true ↔ fs.function ∈ index.map Prod.fst := by
      simp
    by_cases hfs : index.any (·.1 == fs.function) = true
    · simp only [List.foldlM_cons, if_pos hfs]
      constructor
      · nofun
      · rintro ⟨-, hnew, -⟩
        exact absurd (hany.1 hfs) (hnew fs List.mem_cons_self)
    · simp only [List.foldlM_cons, if_neg hfs]
      refine ih.trans ?_
      rw [hany] at hfs
      simp only [List.map_cons, List.nodup_cons, List.map_append, List.map_nil, List.mem_append,
        List.mem_singleton, List.forall_mem_cons, List.append_assoc, List.singleton_append, List.mem_map]
      grind

/-- Forms are told apart by the functions that they name. -/
theorem byFunction_eq_ok_iff {sets : List FactSet} {index : List (Option String × FactSet)} :
    byFunction sets = .ok index ↔
      (sets.map (·.function)).Nodup ∧ index = sets.map fun fs => (fs.function, fs) := by
  rw [byFunction, foldlM_byFunction]
  simp

end Facts

namespace Analysis

variable {functions : List Cursor} {sets : List FactSet} {named : NamedFacts} {name key : String} {fs : FactSet}

namespace NamedFacts

theorem set_of_mem (h : name ∈ named.map Prod.fst) :
    named.set name fs = named.map fun e => if e.1 = name then (name, fs) else e :=
  if_pos (by simpa using h)

theorem set_of_not_mem (h : name ∉ named.map Prod.fst) : named.set name fs = named ++ [(name, fs)] :=
  if_neg (by simpa using h)

theorem mem_set {e : String × FactSet} :
    e ∈ named.set name fs ↔ e = (name, fs) ∨ e.1 ≠ name ∧ e ∈ named := by
  by_cases h : name ∈ named.map Prod.fst
  · rw [set_of_mem h, List.mem_map]
    grind
  · rw [set_of_not_mem h]
    grind

theorem nodup_keys_set (h : (named.map Prod.fst).Nodup) : ((named.set name fs).map Prod.fst).Nodup := by
  by_cases hname : name ∈ named.map Prod.fst
  · have hkeys : (named.map fun e => if e.1 = name then (name, fs) else e).map Prod.fst =
        named.map Prod.fst := by
      rw [List.map_map]
      exact List.map_congr_left fun e _ => by grind
    rwa [set_of_mem hname, hkeys]
  · rw [set_of_not_mem hname, List.map_append, List.map_singleton, List.nodup_append_comm]
    exact List.nodup_cons.2 ⟨hname, h⟩

theorem drop_cons_self : drop ((name, fs) :: named) name = drop named name := by
  simp [drop]

theorem drop_cons_of_ne (h : key ≠ name) : drop ((key, fs) :: named) name = (key, fs) :: drop named name := by
  simp [drop, h]

theorem drop_of_not_mem (h : name ∉ named.map Prod.fst) : drop named name = named :=
  List.filter_eq_self.2 fun e he => by
    simpa using fun heq : e.1 = name => h (List.mem_map.2 ⟨e, he, heq⟩)

theorem lookup_cons_of_ne (h : key ≠ name) : List.lookup name ((key, fs) :: named) = named.lookup name := by
  rw [List.lookup_cons, beq_eq_false_iff_ne.2 h.symm]

/-- The facts of a name and those of the others are all there are. -/
theorem perm_lookup_drop (h : (named.map Prod.fst).Nodup) :
    ((named.lookup name).toList ++ (named.drop name).map Prod.snd).Perm (named.map Prod.snd) := by
  induction named with
  | nil => exact .refl _
  | cons e named ih =>
    obtain ⟨key, facts⟩ := e
    obtain ⟨hnew, h⟩ := List.nodup_cons.1 h
    by_cases hkey : key = name
    · subst hkey
      rw [drop_cons_self, drop_of_not_mem hnew, List.lookup_cons_self]
      exact .refl _
    · rw [drop_cons_of_ne hkey, lookup_cons_of_ne hkey]
      exact List.perm_middle.trans ((ih h).cons _)

end NamedFacts

/-- The forms with a name, each under its name. -/
def namedForms (sets : List FactSet) : NamedFacts :=
  sets.filterMap fun fs => fs.function.map (·, fs)

theorem mem_namedForms : (name, fs) ∈ namedForms sets ↔ fs ∈ sets ∧ fs.function = some name := by
  simp only [namedForms, List.mem_filterMap, Option.map_eq_some_iff, Prod.mk.injEq]
  grind

theorem nodup_keys_namedForms (h : (sets.map (·.function)).Nodup) :
    ((namedForms sets).map Prod.fst).Nodup := by
  have hkeys : (namedForms sets).map Prod.fst = (sets.map (·.function)).filterMap id := by
    simp only [namedForms, List.map_filterMap, List.filterMap_map]
    exact List.filterMap_congr fun fs _ => by
      show (fs.function.map (·, fs)).map Prod.fst = fs.function
      rw [Option.map_map]
      exact Option.map_id_apply
  rw [hkeys]
  exact h.filterMap fun a b c ha hb => by
    simp_all

/-- An unnamed form goes to the only function, in the place of a form with its name. -/
theorem assignFacts_eq_ok_iff : assignFacts functions sets = .ok named ↔
    (sets.map (·.function)).Nodup ∧
      ((∀ fs ∈ sets, fs.function ≠ none) ∧ named = namedForms sets ∨
        ∃ f, functions = [f] ∧ ∃ fs ∈ sets, fs.function = none ∧
          named = (namedForms sets).set f.spelling fs) := by
  unfold assignFacts
  cases hindex : byFunction sets with
  | error e =>
    refine iff_of_false nofun fun h => ?_
    have hok := byFunction_eq_ok_iff.2 ⟨h.1, rfl⟩
    rw [hindex] at hok
    nomatch hok
  | ok index =>
    obtain ⟨hnodup, rfl⟩ := byFunction_eq_ok_iff.1 hindex
    have hnamed : ((sets.map fun fs => (fs.function, fs)).filterMap fun e => e.1.map (·, e.2)) =
        namedForms sets := List.filterMap_map
    have hkeys : ((sets.map fun fs => (fs.function, fs)).map Prod.fst).Nodup := by
      rwa [List.map_map]
    simp only [bind, Except.bind, hnamed, hnodup, true_and]
    cases hunnamed : (sets.map fun fs => (fs.function, fs)).lookup none with
    | none =>
      have hall : ∀ fs ∈ sets, fs.function ≠ none := fun fs hfs hnone => by
        simpa [hnone] using List.lookup_eq_none_iff.1 hunnamed _ (List.mem_map_of_mem hfs)
      grind
    | some unnamed =>
      have hmem : unnamed ∈ sets ∧ unnamed.function = none := by
        simpa using (lookup_eq_some_iff_mem hkeys).1 hunnamed
      have hunique : ∀ fs ∈ sets, fs.function = none → fs = unnamed := fun fs hfs hnone =>
        List.inj_on_of_nodup_map hnodup hfs hmem.1 (hnone.trans hmem.2.symm)
      have hsome : ¬ ∀ fs ∈ sets, fs.function ≠ none := fun hall => hall unnamed hmem.1 hmem.2
      rcases functions with _ | ⟨f, _ | ⟨g, rest⟩⟩
      · simp [hsome]
      · simp only [Except.ok.injEq, hsome, false_and, false_or, List.cons.injEq, and_true]
        grind
      · simp [hsome]

/-- The form names the only function, and an unnamed form goes to that function in its place. -/
def Displaced (functions : List Cursor) (sets : List FactSet) (fs : FactSet) : Prop :=
  functions.map (fun f => some f.spelling) = [fs.function] ∧ none ∈ sets.map (·.function)

instance : Decidable (Displaced functions sets fs) :=
  inferInstanceAs (Decidable (_ ∧ _))

section assigned

variable (h : assignFacts functions sets = .ok named)
include h

theorem nodup_keys_assignFacts : (named.map Prod.fst).Nodup := by
  obtain ⟨hnodup, ⟨-, rfl⟩ | ⟨f, -, fs, -, -, rfl⟩⟩ := assignFacts_eq_ok_iff.1 h
  · exact nodup_keys_namedForms hnodup
  · exact NamedFacts.nodup_keys_set (nodup_keys_namedForms hnodup)

theorem mem_assignFacts_iff : (name, fs) ∈ named ↔ fs ∈ sets ∧ ¬ Displaced functions sets fs ∧
    (fs.function = some name ∨ fs.function = none ∧ functions.map (·.spelling) = [name]) := by
  obtain ⟨hnodup, ⟨hall, rfl⟩ | ⟨f, rfl, unnamed, hmem, hnone, rfl⟩⟩ := assignFacts_eq_ok_iff.1 h
  · have hplace : ¬ Displaced functions sets fs := fun hdisplaced => by
      obtain ⟨other, hother, hnone⟩ := List.mem_map.1 hdisplaced.2
      exact hall other hother hnone
    rw [mem_namedForms]
    grind
  · have hunique : ∀ fs ∈ sets, fs.function = none → fs = unnamed := fun fs hfs hfsNone =>
      List.inj_on_of_nodup_map hnodup hfs hmem (hfsNone.trans hnone.symm)
    have hplace : Displaced [f] sets fs ↔ fs.function = some f.spelling := by
      simp only [Displaced, List.map_cons, List.map_nil, List.cons.injEq, and_true, List.mem_map]
      grind
    rw [NamedFacts.mem_set, mem_namedForms, hplace]
    simp only [Prod.mk.injEq, List.map_cons, List.map_nil, List.cons.injEq, and_true]
    grind

/-- Only displaced forms have no name to go under. -/
theorem mem_values_assignFacts_iff :
    fs ∈ named.map Prod.snd ↔ fs ∈ sets ∧ ¬ Displaced functions sets fs := by
  simp only [List.mem_map, Prod.exists, exists_eq_right, mem_assignFacts_iff h]
  refine ⟨fun ⟨name, hfs, hplace, _⟩ => ⟨hfs, hplace⟩, fun ⟨hfs, hplace⟩ => ?_⟩
  cases hfunction : fs.function with
  | some name => exact ⟨name, hfs, hplace, .inl rfl⟩
  | none =>
    obtain ⟨-, ⟨hall, -⟩ | ⟨f, rfl, -⟩⟩ := assignFacts_eq_ok_iff.1 h
    · exact absurd hfunction (hall fs hfs)
    · exact ⟨f.spelling, hfs, hplace, .inr ⟨rfl, rfl⟩⟩

theorem nodup_values_assignFacts : (named.map Prod.snd).Nodup := by
  refine (List.nodup_map_iff_inj_on ((nodup_keys_assignFacts h).of_map _)).2 ?_
  rintro ⟨name, fs⟩ hfs ⟨name', _⟩ hfs' rfl
  obtain ⟨-, -, hname⟩ := (mem_assignFacts_iff h).1 hfs
  obtain ⟨-, -, hname'⟩ := (mem_assignFacts_iff h).1 hfs'
  grind

end assigned

/-! ## Functions and their facts -/

theorem pairUp_cons (f : Cursor) : pairUp (f :: functions) named =
    (⟨f, named.lookup f.spelling⟩ :: (pairUp functions (named.drop f.spelling)).1,
      (pairUp functions (named.drop f.spelling)).2) := rfl

theorem map_function_pairUp (functions : List Cursor) (named : NamedFacts) :
    (pairUp functions named).1.map (·.function) = functions := by
  induction functions generalizing named with
  | nil => rfl
  | cons f functions ih => rw [pairUp_cons, List.map_cons, ih]

theorem leftover_pairUp (functions : List Cursor) (named : NamedFacts) :
    (pairUp functions named).2 = named.filter (·.1 ∉ functions.map (·.spelling)) := by
  induction functions generalizing named with
  | nil => simp [pairUp]
  | cons f functions ih =>
    rw [pairUp_cons, ih, NamedFacts.drop, List.filter_filter]
    exact List.filter_congr fun e _ => by grind

/-- What the functions take and what is left over are all the facts there were. -/
theorem perm_pairUp (functions : List Cursor) (h : (named.map Prod.fst).Nodup) :
    ((pairUp functions named).1.filterMap (·.facts) ++ (pairUp functions named).2.map Prod.snd).Perm
      (named.map Prod.snd) := by
  induction functions generalizing named with
  | nil => exact .refl _
  | cons f functions ih =>
    have hrest : ((named.drop f.spelling).map Prod.fst).Nodup :=
      h.sublist (List.filter_sublist.map _)
    have htaken : ((pairUp (f :: functions) named).1.filterMap (·.facts)) =
        (named.lookup f.spelling).toList ++
          (pairUp functions (named.drop f.spelling)).1.filterMap (·.facts) := by
      rw [pairUp_cons, List.filterMap_cons]
      cases named.lookup f.spelling <;> rfl
    rw [htaken, List.append_assoc, pairUp_cons]
    exact ((ih hrest).append_left _).trans (NamedFacts.perm_lookup_drop h)

section assigned

variable (h : assignFacts functions sets = .ok named)
include h

theorem countP_pairUp (fs : FactSet) : (pairUp functions named).1.countP (·.facts = some fs) +
    ((pairUp functions named).2.map Prod.snd).count fs = (named.map Prod.snd).count fs := by
  rw [← (perm_pairUp functions (nodup_keys_assignFacts h)).count_eq fs, List.count_append, List.count_filterMap]
  simp only [beq_eq_decide]

/-- A form is left over if its name is. -/
theorem mem_leftover_iff (hfs : fs ∈ named.map Prod.snd) :
    fs ∈ (pairUp functions named).2.map Prod.snd ↔
      fs.function ∈ ((pairUp functions named).2.map Prod.fst).map some := by
  obtain ⟨⟨name, _⟩, hentry, rfl⟩ := List.mem_map.1 hfs
  have hleft : ∀ e, e ∈ (pairUp functions named).2 ↔ e ∈ named ∧ e.1 ∉ functions.map (·.spelling) := by
    simp [leftover_pairUp]
  have hkey := List.inj_on_of_nodup_map (nodup_keys_assignFacts h)
  have hvalue := List.inj_on_of_nodup_map (nodup_values_assignFacts h)
  obtain ⟨-, -, hname | ⟨hnone, hnames⟩⟩ := (mem_assignFacts_iff h).1 hentry
  · grind
  · have hused : ¬ name ∉ functions.map (·.spelling) := by
      simp [hnames]
    grind

/-- A form goes to one function or is left over, unless it is displaced. -/
theorem uses_pairUp (hfs : fs ∈ sets) :
    let uses := (pairUp functions named).1.countP (·.facts = some fs)
    let unused := ((pairUp functions named).2.map Prod.fst).map some
    (Displaced functions sets fs → uses = 0 ∧ fs.function ∉ unused) ∧
    (¬ Displaced functions sets fs →
      uses = 1 ∧ fs.function ∉ unused ∨ uses = 0 ∧ fs.function ∈ unused) := by
  intro uses unused
  have hcount := countP_pairUp h fs
  constructor
  · intro hplace
    have hlost : fs ∉ named.map Prod.snd := fun hmem =>
      ((mem_values_assignFacts_iff h).1 hmem).2 hplace
    obtain ⟨f, rfl, hname⟩ := List.map_eq_singleton_iff.1 hplace.1
    rw [List.count_eq_zero_of_not_mem hlost] at hcount
    refine ⟨by omega, ?_⟩
    simp only [unused, leftover_pairUp, ← hname]
    simp
  · intro hplace
    have hmem := (mem_values_assignFacts_iff h).2 ⟨hfs, hplace⟩
    rw [List.count_eq_one_of_mem (nodup_values_assignFacts h) hmem] at hcount
    rw [← mem_leftover_iff h hmem]
    by_cases hleft : fs ∈ (pairUp functions named).2.map Prod.snd
    · have hpos := List.count_pos_iff.2 hleft
      exact .inr ⟨by omega, hleft⟩
    · rw [List.count_eq_zero_of_not_mem hleft] at hcount
      exact .inl ⟨hcount, hleft⟩

end assigned

/-! ## Runs over a source file -/

theorem analyzeUnit_eq_ok_iff {u : SourceUnit} {path : String} {locator : Option Locator} {budget : Budget}
    {clock clock' : Clock} {journal : Journal} {reports : List Report} :
    analyzeUnit u path sets locator budget clock = ⟨journal, clock', .ok reports⟩ ↔
      ∃ functions named, selectFunctions u locator = .ok functions ∧ assignFacts functions sets = .ok named ∧
        ∃ notes, analyzePairings budget (pairUp functions named).1 clock = ⟨notes, clock', .ok reports⟩ ∧
          journal = notes ++ (pairUp functions named).2.map fun e => leftoverNote path e.1 := by
  cases hselect : selectFunctions u locator with
  | error e => simp [analyzeUnit, hselect]
  | ok functions =>
    cases hassign : assignFacts functions sets with
    | error e => simp [analyzeUnit, hselect, hassign]
    | ok named =>
      rcases hrun : analyzePairings budget (pairUp functions named).1 clock with ⟨notes, clock'', e | reports'⟩
      · simp [analyzeUnit, hselect, hassign, hrun]
      · simp only [analyzeUnit, hselect, hassign, hrun]
        constructor
        · rintro ⟨⟩
          exact ⟨functions, named, rfl, hassign, notes, hrun, rfl⟩
        · rintro ⟨_, _, ⟨⟩, hassign', notes', hrun', rfl⟩
          cases hassign.symm.trans hassign'
          cases hrun.symm.trans hrun'
          rfl

end Analysis

namespace Work

open Analysis

theorem ofUnitRun_eq_ok_iff {α : Type} {run : UnitRun α} {s s' : Session} {a : α} :
    ofUnitRun run s = .ok a s' ↔ ∃ journal clock, run = ⟨journal, clock, .ok a⟩ ∧
      s' = { s with clock, journal := s.journal ++ journal } := by
  rcases run with ⟨journal, clock, e | b⟩
  · exact iff_of_false nofun (by rintro ⟨_, _, ⟨⟩, _⟩)
  · constructor
    · rintro ⟨⟩
      exact ⟨_, _, rfl, rfl⟩
    · rintro ⟨_, _, ⟨⟩, rfl⟩
      rfl

section

variable {path : String} {config : Config} {sets : List FactSet} {locator : Option Locator} {s s₁ s' : Session}
  {u : SourceUnit} {reports : List Report}

theorem analyzeFile_of_parseSource (h : parseSource path config.clangArgs s = .ok u s₁) :
    analyzeFile path config sets locator s =
      ofUnitRun (analyzeUnit u path sets locator config.budget s₁.clock) s₁ := by
  simp only [analyzeFile, bind, EStateM.bind, h]
  rfl

theorem analyzeFile_eq_ok_iff : analyzeFile path config sets locator s = .ok reports s' ↔
    ∃ u s₁, parseSource path config.clangArgs s = .ok u s₁ ∧ ∃ journal clock,
      analyzeUnit u path sets locator config.budget s₁.clock = ⟨journal, clock, .ok reports⟩ ∧
      s' = { s₁ with clock, journal := s₁.journal ++ journal } := by
  cases hparse : parseSource path config.clangArgs s with
  | error e s₁ => simp [analyzeFile, bind, EStateM.bind, hparse]
  | ok u s₁ =>
    rw [analyzeFile_of_parseSource hparse, ofUnitRun_eq_ok_iff]
    simp

/-- Every form goes to exactly one function, or its name is noted as that of no function, unless it is displaced :
then it is lost. -/
theorem facts_lost_iff_displaced (h : analyzeFile path config sets locator s = .ok reports s') :
    ∃ u s₁ functions, ∃ pairings : List Pairing, ∃ warned : List String,
      parseSource path config.clangArgs s = .ok u s₁ ∧
      selectFunctions u locator = .ok functions ∧
      pairings.map (·.function) = functions ∧
      (analyzePairings config.budget pairings s₁.clock).outcome = .ok reports ∧
      s'.journal = s₁.journal ++ ((analyzePairings config.budget pairings s₁.clock).journal ++
        warned.map (leftoverNote path)) ∧
      ∀ fs ∈ sets,
        (Displaced functions sets fs →
          pairings.countP (·.facts = some fs) = 0 ∧ fs.function ∉ warned.map some) ∧
        (¬ Displaced functions sets fs →
          pairings.countP (·.facts = some fs) = 1 ∧ fs.function ∉ warned.map some ∨
          pairings.countP (·.facts = some fs) = 0 ∧ fs.function ∈ warned.map some) := by
  obtain ⟨u, s₁, hparse, journal, clock, hrun, rfl⟩ := analyzeFile_eq_ok_iff.1 h
  obtain ⟨functions, named, hselect, hassign, notes, hpairings, rfl⟩ := analyzeUnit_eq_ok_iff.1 hrun
  refine ⟨u, s₁, functions, (pairUp functions named).1, (pairUp functions named).2.map Prod.fst, hparse, hselect,
    map_function_pairUp functions named, by rw [hpairings], ?_, fun fs hfs => uses_pairUp hassign hfs⟩
  rw [hpairings, List.map_map]
  rfl

end

/-! ## A lost form -/

/-- A statement without a text. -/
def bareStatement (kind : CursorKind) (children : List Cursor) : Cursor :=
  .mk kind "" [] children none {} false none none []

/-- A function without parameters. -/
def bareFunction (name : String) (body : List Cursor) : Cursor :=
  .mk .function name [] [bareStatement .compound body] none {} true none none []

/-- A session with one source file, which has the given functions. -/
def sessionOver (functions : List Cursor) : Session where
  environment := { workingDirectory := "", parse := fun _ _ => .ok { spelling := "", declarations := functions } }
  files := { entries := [(["a.c"], .empty)] }
  clock := ⟨fun _ => 0, 0⟩

/-- A form about the function `f` : it breaks a loan at the point where the loan is taken. -/
def brokenLoan : FactSet where
  function := some "f"
  base := { borrows := {⟨0, 0, 0⟩}, live := {⟨0, 0⟩}, invalidations := {⟨0, 0⟩} }

theorem exists_parseSource_sessionOver (functions : List Cursor) :
    ∃ s₁, parseSource "a.c" ({} : Config).clangArgs (sessionOver functions) =
      .ok { spelling := "", declarations := functions } s₁ := by
  have hfile : (sessionOver functions).files.isFile "a.c" = true := by
    show (⟨[], [(["a.c"], .empty)], [], []⟩ : Files.Tree).isFile "a.c" = true
    decide +kernel
  simp only [parseSource, bind, EStateM.bind, get, getThe, MonadStateOf.get]
  unfold EStateM.get
  simp only [hfile]
  exact ⟨_, rfl⟩

/-- How a concrete run ends can be decided. -/
theorem exists_eq_ok {ε σ α : Type} {r : EStateM.Result ε σ α} {p : α → σ → Prop} [∀ a s, Decidable (p a s)]
    (h : (match r with | .ok a s => decide (p a s) | .error .. => false) = true) :
    ∃ a s, r = .ok a s ∧ p a s := by
  cases r with
  | ok a s => exact ⟨a, s, rfl, of_decide_eq_true h⟩
  | error e s => nomatch h

theorem facts_lost_iff_displaced_sole :
    ∃ reports s', analyzeFile "a.c" {} [brokenLoan, {}] none (sessionOver [bareFunction "f" []]) = .ok reports s' ∧
      ∃ s₁ : Session, ∃ pairings : List Pairing, ∃ warned : List String,
        pairings.map (·.function) = [bareFunction "f" []] ∧
        (analyzePairings ({} : Config).budget pairings s₁.clock).outcome = .ok reports ∧
        s'.journal = s₁.journal ++ ((analyzePairings ({} : Config).budget pairings s₁.clock).journal ++
          warned.map (leftoverNote "a.c")) ∧
        pairings.countP (·.facts = some brokenLoan) = 0 ∧ some "f" ∉ warned.map some ∧
        pairings.countP (·.facts = some {}) = 1 := by
  obtain ⟨reports, s', h, -⟩ :
      ∃ reports s', analyzeFile "a.c" {} [brokenLoan, {}] none (sessionOver [bareFunction "f" []]) = .ok reports s' ∧
        True :=
    exists_eq_ok (by decide +kernel)
  obtain ⟨u, s₁, functions, pairings, warned, hparse, hselect, hfunctions, hreports, hjournal, hforms⟩ :=
    facts_lost_iff_displaced h
  obtain rfl : functions = [bareFunction "f" []] := by
    obtain ⟨_, hunit⟩ := exists_parseSource_sessionOver [bareFunction "f" []]
    cases hparse.symm.trans hunit
    cases hselect
    rfl
  refine ⟨reports, s', h, s₁, pairings, warned, hfunctions, hreports, hjournal, ?_⟩
  obtain ⟨hlost, -⟩ := hforms brokenLoan (by simp)
  obtain ⟨-, hused⟩ := hforms {} (by simp)
  obtain ⟨hzero, hunwarned⟩ := hlost (by decide)
  obtain ⟨hone, -⟩ | ⟨-, hnone⟩ := hused (by decide)
  · exact ⟨hzero, hunwarned, hone⟩
  · simp at hnone

/-- A form is lost without a note : with it or without it the run is the same. Alone it leads to a violation. -/
theorem facts_lost_silently :
    analyzeFile "a.c" {} [brokenLoan, {}] none (sessionOver [bareFunction "f" []]) =
      analyzeFile "a.c" {} [{}] none (sessionOver [bareFunction "f" []]) ∧
    (∃ reports s', analyzeFile "a.c" {} [brokenLoan, {}] none (sessionOver [bareFunction "f" []]) = .ok reports s' ∧
      reports.map (·.status) = [.ok] ∧ s'.journal.filter (·.level = .warning) = []) ∧
    ∃ reports s', analyzeFile "a.c" {} [brokenLoan] none (sessionOver [bareFunction "f" []]) = .ok reports s' ∧
      reports.map (·.status) = [.violations] := by
  have hassign : assignFacts [bareFunction "f" []] [brokenLoan, {}] = assignFacts [bareFunction "f" []] [{}] := rfl
  obtain ⟨s₁, hparse⟩ := exists_parseSource_sessionOver [bareFunction "f" []]
  have hselect : selectFunctions ⟨"", [bareFunction "f" []], []⟩ none = .ok [bareFunction "f" []] := rfl
  refine ⟨?_, ?_, ?_⟩
  · rw [analyzeFile_of_parseSource hparse, analyzeFile_of_parseSource hparse]
    simp only [analyzeUnit, hselect, hassign]
  · exact exists_eq_ok (by decide +kernel)
  · exact exists_eq_ok (by decide +kernel)

end Work

end LoanCheck

import LoanCheck.Facts.Reader
import LoanCheck.Proofs.Solver.Rows
import Mathlib.Data.List.Basic
import Mathlib.Data.List.Induction
import Mathlib.Data.List.Nodup

/-!
# Numbering names

Rows are written with names, and the facts store them with numbers. `FactSet.ofRows` makes facts of written rows.

The names of the facts are the names of the rows in order of first appearance (`regionNames_ofRows`,
`loanNames_ofRows`), and a row is stored with the position of each name (`mem_rows_ofRows`). With names put back in
(`FactSet.spelled`), the facts have the rows they were made of (`mem_spelled_ofRows`).

So the numbers in use are the positions of the names (`FactSet.Dense`), but not all facts with such numbers come
from their own rows : these have to mention new numbers in ascending order (`FactSet.Ordered`,
`ofRows_spelled_eq_iff`).
-/

namespace LoanCheck.Facts

open Solver

attribute [ext] FactSet

/-! ## Names and positions -/

/-- The names with one more, if it is new. -/
def addName (names : List String) (name : String) : List String :=
  if name ∈ names then names else names ++ [name]

/-- The number of a name. -/
def position (names : List String) (name : String) : Int :=
  names.idxOf name

theorem intern_eq (names : List String) (name : String) :
    intern names name = (position (addName names name) name, addName names name) := by
  unfold intern addName position
  by_cases h : name ∈ names
  · have hfind : names.findIdx? (· = name) = some (names.idxOf name) := by
      rw [List.findIdx?_eq_some_iff_findIdx_eq]
      exact ⟨List.idxOf_lt_length_of_mem h, by simp [List.idxOf, beq_eq_decide]⟩
    rw [hfind, if_pos h]
  · have hfind : names.findIdx? (· = name) = none := by
      rw [List.findIdx?_eq_none_iff]
      intro n hn
      exact decide_eq_false fun heq => h (heq ▸ hn)
    rw [hfind, if_neg h, List.idxOf_append_of_notMem h]
    simp

theorem mem_addName {names : List String} {name n : String} :
    n ∈ addName names name ↔ n ∈ names ∨ n = name := by
  unfold addName
  split <;> grind

/-- A name that is there already keeps its number. -/
theorem position_addName {names : List String} {n : String} (h : n ∈ names) (name : String) :
    position (addName names name) n = position names n := by
  unfold addName position
  split
  · rfl
  · rw [List.idxOf_append_of_mem h]

theorem nameAt?_position {names : List String} {name : String} (h : name ∈ names) :
    nameAt? names (position names name) = some name := by
  have hlt := List.idxOf_lt_length_of_mem h
  rw [nameAt?, if_neg (by simp [position]), position, Int.toNat_natCast, List.getElem?_eq_getElem hlt,
    List.getElem_idxOf hlt]

/-! ## Lists without duplicates -/

theorem eraseDups_concat {α : Type} [DecidableEq α] (xs : List α) (y : α) :
    (xs ++ [y]).eraseDups = if y ∈ xs then xs.eraseDups else xs.eraseDups ++ [y] := by
  rw [List.eraseDups_append]
  split <;> simp_all [List.removeAll, List.eraseDups_cons]

theorem nodup_eraseDups {α : Type} [DecidableEq α] (xs : List α) : xs.eraseDups.Nodup := by
  induction xs using List.reverseRecOn with
  | nil => exact List.nodup_nil
  | append_singleton xs y ih =>
    rw [eraseDups_concat]
    split
    next => exact ih
    next hy => exact List.nodup_append_comm.1 (List.nodup_cons.2 ⟨by simpa using hy, ih⟩)

/-- First appearances stay in their order under a map that keeps the entries apart. -/
theorem eraseDups_map {α β : Type} [DecidableEq α] [DecidableEq β] {f : α → β} {xs : List α}
    (hf : ∀ x ∈ xs, ∀ y ∈ xs, f x = f y → x = y) : (xs.map f).eraseDups = xs.eraseDups.map f := by
  induction xs using List.reverseRecOn with
  | nil => rfl
  | append_singleton xs y ih =>
    have hmem : f y ∈ xs.map f ↔ y ∈ xs := by
      refine ⟨fun h => ?_, List.mem_map_of_mem⟩
      obtain ⟨x, hx, heq⟩ := List.mem_map.1 h
      exact hf x (by simp [hx]) y (by simp) heq ▸ hx
    rw [List.map_append, List.map_singleton, eraseDups_concat, eraseDups_concat,
      ih fun x hx z hz => hf x (by simp [hx]) z (by simp [hz])]
    split <;> simp_all

theorem foldl_addName_eraseDups (xs ys : List String) :
    ys.foldl addName xs.eraseDups = (xs ++ ys).eraseDups := by
  induction ys generalizing xs with
  | nil => rw [List.foldl_nil, List.append_nil]
  | cons y ys ih =>
    have hadd : addName xs.eraseDups y = (xs ++ [y]).eraseDups := by
      rw [eraseDups_concat, addName]
      simp only [List.mem_eraseDups]
    rw [List.foldl_cons, hadd, ih, List.append_assoc, List.singleton_append]

theorem position_foldl_addName {names : List String} {n : String} (h : n ∈ names) (ns : List String) :
    position (ns.foldl addName names) n = position names n := by
  induction ns generalizing names with
  | nil => rfl
  | cons m ns ih => rw [List.foldl_cons, ih (mem_addName.2 (.inl h)), position_addName h]

/-! ## The facts of rows -/

namespace FactSet

/-- The facts with one more row, given by names. -/
def note (fs : FactSet) (row : Row String String) : FactSet :=
  let regionNames := row.regions.foldl addName fs.regionNames
  let loanNames := row.loans.foldl addName fs.loanNames
  { fs with
    base := fs.base.insert (row.map (position regionNames) (position loanNames))
    regionNames, loanNames }

/-- The facts of rows, about a function. -/
def ofRows (function : Option String) (rows : List (Row String String)) : FactSet :=
  rows.foldl note { function }

/-- The rows of the facts, given by names. -/
def spelled (fs : FactSet) : List (Row String String) :=
  fs.base.rows.map (Row.map fs.regionName fs.loanName)

variable (function : Option String) (rows : List (Row String String))

theorem ofRows_concat (row : Row String String) :
    ofRows function (rows ++ [row]) = (ofRows function rows).note row := by
  simp [ofRows]

@[simp] theorem function_ofRows : (ofRows function rows).function = function := by
  induction rows using List.reverseRecOn with
  | nil => rfl
  | append_singleton rows row ih =>
    rw [ofRows_concat]
    exact ih

/-- Regions are named in order of first appearance. -/
theorem regionNames_ofRows :
    (ofRows function rows).regionNames = (rows.flatMap Row.regions).eraseDups := by
  induction rows using List.reverseRecOn with
  | nil => rfl
  | append_singleton rows row ih =>
    rw [ofRows_concat, note, ih, foldl_addName_eraseDups, List.flatMap_append, List.flatMap_singleton]

/-- Loans are named in order of first appearance. -/
theorem loanNames_ofRows :
    (ofRows function rows).loanNames = (rows.flatMap Row.loans).eraseDups := by
  induction rows using List.reverseRecOn with
  | nil => rfl
  | append_singleton rows row ih =>
    rw [ofRows_concat, note, ih, foldl_addName_eraseDups, List.flatMap_append, List.flatMap_singleton]

/-- A row is stored with the positions of its names. -/
theorem mem_rows_ofRows {r : Row Region Loan} : r ∈ (ofRows function rows).base.rows ↔
    ∃ row ∈ rows, row.map (position (ofRows function rows).regionNames)
      (position (ofRows function rows).loanNames) = r := by
  induction rows using List.reverseRecOn with
  | nil => simp [ofRows]
  | append_singleton rows row ih =>
    -- a later row does not change the number of a name
    have hkeep : ∀ row' ∈ rows,
        row'.map (position ((ofRows function rows).note row).regionNames)
            (position ((ofRows function rows).note row).loanNames) =
          row'.map (position (ofRows function rows).regionNames)
            (position (ofRows function rows).loanNames) := by
      intro row' hrow'
      refine Row.map_congr (fun n hn => position_foldl_addName ?_ _)
        (fun n hn => position_foldl_addName ?_ _)
      · rw [regionNames_ofRows, List.mem_eraseDups]
        exact List.mem_flatMap.2 ⟨row', hrow', hn⟩
      · rw [loanNames_ofRows, List.mem_eraseDups]
        exact List.mem_flatMap.2 ⟨row', hrow', hn⟩
    rw [ofRows_concat]
    simp only [List.mem_append, List.mem_singleton, or_and_right, exists_or, exists_eq_left]
    rw [show r ∈ ((ofRows function rows).note row).base.rows ↔ _ from Inputs.mem_rows_insert, ih, or_comm]
    refine or_congr (exists_congr fun row' => and_congr_right fun hrow' => ?_) eq_comm
    rw [hkeep row' hrow']

end FactSet

/-! ## Dense numbers -/

/-- The names are distinct, and the numbers that occur are their positions. -/
structure Numbers (names : List String) (ids : List Int) : Prop where
  nodup : names.Nodup
  mem_iff : ∀ i, i ∈ ids ↔ 0 ≤ i ∧ i < names.length

namespace Numbers

variable {names : List String} {ids : List Int} {spell : Int → String}

/-- Names in order of first appearance, each numbered by its position. -/
theorem of_eraseDups (ns : List String) (h : ∀ i, i ∈ ids ↔ ∃ n ∈ ns, position ns.eraseDups n = i) :
    Numbers ns.eraseDups ids := by
  refine ⟨nodup_eraseDups ns, fun i => (h i).trans ⟨?_, ?_⟩⟩
  · rintro ⟨n, hn, rfl⟩
    have := List.idxOf_lt_length_of_mem (List.mem_eraseDups.2 hn)
    unfold position
    omega
  · rintro ⟨h0, hlt⟩
    have hlt : i.toNat < ns.eraseDups.length := by omega
    refine ⟨ns.eraseDups[i.toNat], List.mem_eraseDups.1 (List.getElem_mem hlt), ?_⟩
    rw [position, (nodup_eraseDups ns).idxOf_getElem _ hlt]
    omega

/-- A number that occurs has a name. -/
theorem nameAt?_eq (h : Numbers names ids) {i : Int} (hi : i ∈ ids) :
    ∃ n ∈ names, nameAt? names i = some n ∧ position names n = i := by
  obtain ⟨h0, hlt⟩ := (h.mem_iff i).1 hi
  have hlt : i.toNat < names.length := by omega
  refine ⟨names[i.toNat], List.getElem_mem hlt, ?_, ?_⟩
  · rw [nameAt?, if_neg (by omega), List.getElem?_eq_getElem hlt]
  · rw [position, h.nodup.idxOf_getElem _ hlt]
    omega

variable (hspell : ∀ i n, nameAt? names i = some n → spell i = n)
include hspell

theorem position_spell (h : Numbers names ids) {i : Int} (hi : i ∈ ids) :
    position names (spell i) = i := by
  obtain ⟨n, _, hn, hpos⟩ := h.nameAt?_eq hi
  rw [hspell i n hn, hpos]

theorem mem_map_spell (h : Numbers names ids) {n : String} : n ∈ ids.map spell ↔ n ∈ names := by
  rw [List.mem_map]
  constructor
  · rintro ⟨i, hi, rfl⟩
    obtain ⟨n, hmem, hn, _⟩ := h.nameAt?_eq hi
    rwa [hspell i n hn]
  · intro hn
    have hlt := List.idxOf_lt_length_of_mem hn
    refine ⟨position names n, (h.mem_iff _).2 ?_, hspell _ n (nameAt?_position hn)⟩
    unfold position
    omega

/-- The names in order of first appearance are the names as they were exactly if the numbers came in order. -/
theorem eraseDups_map_spell_eq_iff (h : Numbers names ids) : (ids.map spell).eraseDups = names ↔
    ids.eraseDups = (List.range names.length).map Int.ofNat := by
  have hids : (ids.eraseDups.map spell).map (position names) = ids.eraseDups := by
    rw [List.map_map, List.map_congr_left (g := id), List.map_id]
    exact fun i hi => h.position_spell hspell (List.mem_eraseDups.1 hi)
  have hpositions : names.map (position names) = (List.range names.length).map Int.ofNat := by
    refine List.ext_getElem (by simp) fun k hk _ => ?_
    rw [List.getElem_map, List.getElem_map, List.getElem_range, position, h.nodup.idxOf_getElem]
    rfl
  have hnames : (names.map (position names)).map spell = names := by
    rw [List.map_map, List.map_congr_left (g := id), List.map_id]
    exact fun n hn => hspell _ n (nameAt?_position hn)
  rw [eraseDups_map fun i hi j hj hij => by
    rw [← h.position_spell hspell hi, hij, h.position_spell hspell hj]]
  constructor
  · intro heq
    rw [← hids, heq, hpositions]
  · intro heq
    rw [heq, ← hpositions, hnames]

end Numbers

namespace FactSet

/-- Regions and loans are numbered by the positions of their names, and all names occur. -/
structure Dense (fs : FactSet) : Prop where
  regions : Numbers fs.regionNames fs.base.regions
  loans : Numbers fs.loanNames fs.base.loans

/-- Regions and loans are numbered in order of first appearance in the list of all rows. -/
structure Ordered (fs : FactSet) : Prop where
  regions : fs.base.regions.eraseDups = (List.range fs.regionNames.length).map Int.ofNat
  loans : fs.base.loans.eraseDups = (List.range fs.loanNames.length).map Int.ofNat

theorem regionName_eq {fs : FactSet} (r : Region) (n : String)
    (h : nameAt? fs.regionNames r = some n) : fs.regionName r = n := by
  rw [regionName, h, Option.getD_some]

theorem loanName_eq {fs : FactSet} (x : Loan) (n : String) (h : nameAt? fs.loanNames x = some n) :
    fs.loanName x = n := by
  rw [loanName, h, Option.getD_some]

section Rows

variable (function : Option String) (rows : List (Row String String))

theorem mem_regions_ofRows {i : Region} : i ∈ (ofRows function rows).base.regions ↔
    ∃ n ∈ rows.flatMap Row.regions, position (ofRows function rows).regionNames n = i := by
  simp only [Inputs.regions, List.mem_flatMap, mem_rows_ofRows]
  constructor
  · rintro ⟨_, ⟨row, hrow, rfl⟩, hi⟩
    rw [Row.regions_map] at hi
    obtain ⟨n, hn, rfl⟩ := List.mem_map.1 hi
    exact ⟨n, ⟨row, hrow, hn⟩, rfl⟩
  · rintro ⟨n, ⟨row, hrow, hn⟩, rfl⟩
    exact ⟨_, ⟨row, hrow, rfl⟩, Row.regions_map .. ▸ List.mem_map_of_mem hn⟩

theorem mem_loans_ofRows {i : Loan} : i ∈ (ofRows function rows).base.loans ↔
    ∃ n ∈ rows.flatMap Row.loans, position (ofRows function rows).loanNames n = i := by
  simp only [Inputs.loans, List.mem_flatMap, mem_rows_ofRows]
  constructor
  · rintro ⟨_, ⟨row, hrow, rfl⟩, hi⟩
    rw [Row.loans_map] at hi
    obtain ⟨n, hn, rfl⟩ := List.mem_map.1 hi
    exact ⟨n, ⟨row, hrow, hn⟩, rfl⟩
  · rintro ⟨n, ⟨row, hrow, hn⟩, rfl⟩
    exact ⟨_, ⟨row, hrow, rfl⟩, Row.loans_map .. ▸ List.mem_map_of_mem hn⟩

theorem dense_ofRows : (ofRows function rows).Dense where
  regions := by
    rw [regionNames_ofRows]
    exact .of_eraseDups _ fun i => regionNames_ofRows function rows ▸ mem_regions_ofRows function rows
  loans := by
    rw [loanNames_ofRows]
    exact .of_eraseDups _ fun i => loanNames_ofRows function rows ▸ mem_loans_ofRows function rows

/-- With names put back in, the facts of rows have just these rows. -/
theorem mem_spelled_ofRows {row : Row String String} :
    row ∈ (ofRows function rows).spelled ↔ row ∈ rows := by
  have hspell : ∀ row' ∈ rows, (row'.map (position (ofRows function rows).regionNames)
      (position (ofRows function rows).loanNames)).map (ofRows function rows).regionName
        (ofRows function rows).loanName = row' := by
    intro row' hrow'
    rw [Row.map_map]
    refine Row.map_eq_self (fun n hn => regionName_eq _ _ (nameAt?_position ?_))
      (fun n hn => loanName_eq _ _ (nameAt?_position ?_))
    · rw [regionNames_ofRows, List.mem_eraseDups]
      exact List.mem_flatMap.2 ⟨row', hrow', hn⟩
    · rw [loanNames_ofRows, List.mem_eraseDups]
      exact List.mem_flatMap.2 ⟨row', hrow', hn⟩
  simp only [spelled, List.mem_map, mem_rows_ofRows]
  constructor
  · rintro ⟨_, ⟨row', hrow', rfl⟩, rfl⟩
    rwa [hspell row' hrow']
  · exact fun h => ⟨_, ⟨row, h, rfl⟩, hspell row h⟩

end Rows

/-! ## Numbering anew -/

variable {fs : FactSet}

theorem regions_spelled (fs : FactSet) :
    fs.spelled.flatMap Row.regions = fs.base.regions.map fs.regionName := by
  simp [spelled, Inputs.regions, List.flatMap_map, List.map_flatMap]

theorem loans_spelled (fs : FactSet) :
    fs.spelled.flatMap Row.loans = fs.base.loans.map fs.loanName := by
  simp [spelled, Inputs.loans, List.flatMap_map, List.map_flatMap]

theorem Dense.mem_regionNames_of_spelled (h : fs.Dense) {n : String} :
    n ∈ fs.spelled.flatMap Row.regions ↔ n ∈ fs.regionNames := by
  rw [regions_spelled, h.regions.mem_map_spell regionName_eq]

theorem Dense.mem_loanNames_of_spelled (h : fs.Dense) {n : String} :
    n ∈ fs.spelled.flatMap Row.loans ↔ n ∈ fs.loanNames := by
  rw [loans_spelled, h.loans.mem_map_spell loanName_eq]

/-- Numbers for names give back the numbers that the names were put in for. -/
theorem Dense.map_position (h : fs.Dense) {r : Row Region Loan} (hr : r ∈ fs.base.rows) :
    (r.map fs.regionName fs.loanName).map (position fs.regionNames) (position fs.loanNames) = r := by
  rw [Row.map_map]
  refine Row.map_eq_self (fun i hi => ?_) (fun i hi => ?_)
  · exact h.regions.position_spell regionName_eq (List.mem_flatMap.2 ⟨r, hr, hi⟩)
  · exact h.loans.position_spell loanName_eq (List.mem_flatMap.2 ⟨r, hr, hi⟩)

/-- Dense facts store the rows that they spell. -/
theorem Dense.mem_rows (h : fs.Dense) {r : Row Region Loan} : r ∈ fs.base.rows ↔
    ∃ row ∈ fs.spelled, row.map (position fs.regionNames) (position fs.loanNames) = r := by
  constructor
  · exact fun hr => ⟨_, List.mem_map_of_mem hr, h.map_position hr⟩
  · rintro ⟨_, hrow, rfl⟩
    obtain ⟨r, hr, rfl⟩ := List.mem_map.1 hrow
    rwa [h.map_position hr]

/-- Facts made of the written rows are the same facts exactly if the numbers were in order. -/
theorem ofRows_spelled_eq_iff (h : fs.Dense) : ofRows fs.function fs.spelled = fs ↔ fs.Ordered := by
  have hregions := h.regions.eraseDups_map_spell_eq_iff regionName_eq
  have hloans := h.loans.eraseDups_map_spell_eq_iff loanName_eq
  rw [← regions_spelled, ← regionNames_ofRows fs.function] at hregions
  rw [← loans_spelled, ← loanNames_ofRows fs.function] at hloans
  constructor
  · intro heq
    exact ⟨hregions.1 (congrArg regionNames heq), hloans.1 (congrArg loanNames heq)⟩
  · rintro ⟨hr, hl⟩
    have hr := hregions.2 hr
    have hl := hloans.2 hl
    refine FactSet.ext (function_ofRows ..) (Inputs.eq_of_mem_rows fun r => ?_) hr hl
    rw [mem_rows_ofRows, hr, hl, h.mem_rows]

end FactSet

end LoanCheck.Facts

import LoanCheck.Proofs.Facts.Reading
import LoanCheck.Proofs.Solver.Renaming

/-!
# Relation forms in another order

Names are numbered in order of first appearance, so the same relation forms in another order, or with some of them
repeated, give facts with other numbers. The rows under their names stay the same, and facts with the same rows under
their names are the same but for the numbers (`FactSet.Respelled.renamed`).

A text is rearranged (`Rearranged`) if its forms are about the same functions and have the same relation forms as
before. It can still be read then, and gives such facts (`exists_parse_of_rearranged`).
-/

namespace LoanCheck.Facts

open Solver Sexp Results

/-! ## The same rows under their names -/

namespace FactSet

/-- Facts about the same function and with the same rows under their names. -/
structure Respelled (fs fs' : FactSet) : Prop where
  dense : fs.Dense
  dense' : fs'.Dense
  function : fs'.function = fs.function
  rows : ∀ row, row ∈ fs'.spelled ↔ row ∈ fs.spelled

/-- The number that other facts have for a region. -/
def renumberRegion (fs fs' : FactSet) (r : Region) : Region :=
  position fs'.regionNames (fs.regionName r)

/-- The number that other facts have for a loan. -/
def renumberLoan (fs fs' : FactSet) (l : Loan) : Loan :=
  position fs'.loanNames (fs.loanName l)

namespace Respelled

variable {fs fs' : FactSet}

theorem ofRows (function : Option String) {rows rows' : List (Row String String)}
    (h : ∀ row, row ∈ rows' ↔ row ∈ rows) :
    Respelled (FactSet.ofRows function rows) (FactSet.ofRows function rows') where
  dense := dense_ofRows ..
  dense' := dense_ofRows ..
  function := by rw [function_ofRows, function_ofRows]
  rows row := by rw [mem_spelled_ofRows, mem_spelled_ofRows, h]

theorem regionName_renumberRegion (h : Respelled fs fs') {r : Region} (hr : r ∈ fs.base.regions) :
    fs'.regionName (renumberRegion fs fs' r) = fs.regionName r := by
  have hname : fs.regionName r ∈ fs.spelled.flatMap Row.regions := by
    rw [regions_spelled]
    exact List.mem_map_of_mem hr
  obtain ⟨row, hrow, hr⟩ := List.mem_flatMap.1 hname
  have hname' : fs.regionName r ∈ fs'.regionNames :=
    h.dense'.mem_regionNames_of_spelled.1 (List.mem_flatMap.2 ⟨row, (h.rows row).2 hrow, hr⟩)
  exact regionName_eq _ _ (nameAt?_position hname')

theorem loanName_renumberLoan (h : Respelled fs fs') {l : Loan} (hl : l ∈ fs.base.loans) :
    fs'.loanName (renumberLoan fs fs' l) = fs.loanName l := by
  have hname : fs.loanName l ∈ fs.spelled.flatMap Row.loans := by
    rw [loans_spelled]
    exact List.mem_map_of_mem hl
  obtain ⟨row, hrow, hl⟩ := List.mem_flatMap.1 hname
  have hname' : fs.loanName l ∈ fs'.loanNames :=
    h.dense'.mem_loanNames_of_spelled.1 (List.mem_flatMap.2 ⟨row, (h.rows row).2 hrow, hl⟩)
  exact loanName_eq _ _ (nameAt?_position hname')

/-- Facts with the same rows under their names are the same but for the numbers. -/
theorem renamed (h : Respelled fs fs') :
    Inputs.Renamed (renumberRegion fs fs') (renumberLoan fs fs') fs.base fs'.base where
  mem_rows row := by
    constructor
    · intro hrow
      obtain ⟨r, hr, heq⟩ := List.mem_map.1 ((h.rows _).1 (List.mem_map_of_mem hrow))
      refine ⟨r, hr, ?_⟩
      rw [← h.dense'.map_position hrow, ← heq, Row.map_map]
      rfl
    · rintro ⟨r, hr, rfl⟩
      obtain ⟨r', hr', heq⟩ := List.mem_map.1 ((h.rows _).2 (List.mem_map_of_mem hr))
      have hrow : r.map (renumberRegion fs fs') (renumberLoan fs fs') = r' := by
        rw [← h.dense'.map_position hr', heq, Row.map_map]
        rfl
      rwa [hrow]
  region_eq {a b} ha hb heq := by
    rw [← h.dense.regions.position_spell regionName_eq ha, ← h.regionName_renumberRegion ha, heq,
      h.regionName_renumberRegion hb, h.dense.regions.position_spell regionName_eq hb]
  loan_eq {x y} hx hy heq := by
    rw [← h.dense.loans.position_spell loanName_eq hx, ← h.loanName_renumberLoan hx, heq,
      h.loanName_renumberLoan hy, h.dense.loans.position_spell loanName_eq hy]

end Respelled

end FactSet

/-! ## Forms -/

/-- The form is about the same function and has the same relation forms, in any order and number. -/
structure RearrangedForm (form form' : Datum) : Prop where
  head : headWord? form' = headWord? form
  name : nameDatum? form' = nameDatum? form
  relations : ∀ d, d ∈ relationForms form' ↔ d ∈ relationForms form

/-- The forms of a text are rearranged one by one, or all of them together if they are bare relations. -/
inductive Rearranged (forms forms' : List Datum) : Prop where
  | named : (∀ form ∈ forms, headWord? form = some "facts") → List.Forall₂ RearrangedForm forms forms' →
      Rearranged forms forms'
  | bare : (∀ form ∈ forms, headWord? form ≠ some "facts") → (∀ form, form ∈ forms' ↔ form ∈ forms) →
      Rearranged forms forms'

/-! ## Reading -/

variable {source : String} {fs : FactSet}

/-- Relation forms in another order are read as facts with the same rows. -/
theorem exists_readRelations_of_mem_iff {function : Option String} {forms forms' : List Datum}
    (hforms : ∀ form, form ∈ forms' ↔ form ∈ forms)
    (hread : readRelations source function forms = .ok fs) :
    ∃ fs', readRelations source function forms' = .ok fs' ∧ fs.Respelled fs' := by
  obtain ⟨rows, hrows, rfl⟩ := readRelations_eq_ok.1 hread
  obtain ⟨rows', hrows'⟩ := exists_forall₂_of_forall_mem fun form hform =>
    (exists_mem_of_forall₂ hrows.flip ((hforms form).1 hform)).imp fun _ h => h.2
  refine ⟨_, readRelations_eq_ok.2 ⟨rows', hrows', rfl⟩, .ofRows function fun row => ?_⟩
  rw [mem_rows_of_forall₂ hrows, mem_rows_of_forall₂ hrows']
  simp only [hforms]

theorem RearrangedForm.exists_readForm {form form' : Datum} (h : RearrangedForm form form')
    (hread : readForm source form = .ok fs) :
    ∃ fs', readForm source form' = .ok fs' ∧ fs.Respelled fs' := by
  obtain ⟨function, hfunction, hread⟩ := readForm_eq_ok.1 hread
  obtain ⟨fs', hread', hrespelled⟩ := exists_readRelations_of_mem_iff h.relations hread
  exact ⟨fs', readForm_eq_ok.2 ⟨function, h.name ▸ hfunction, hread'⟩, hrespelled⟩

/-- Forms that are rearranged one by one are read one by one. -/
theorem exists_mapM_readForm {forms forms' : List Datum} (h : List.Forall₂ RearrangedForm forms forms')
    {first : ℕ} {sets : List FactSet}
    (hread : (forms.zipIdx first).mapM (fun (form, i) => readForm (formSource source i) form) = .ok sets) :
    ∃ sets', (forms'.zipIdx first).mapM (fun (form, i) => readForm (formSource source i) form) = .ok sets' ∧
      List.Forall₂ FactSet.Respelled sets sets' := by
  induction h generalizing first sets with
  | nil =>
    cases hread
    exact ⟨[], rfl, .nil⟩
  | cons hform _ ih =>
    rw [List.zipIdx_cons, List.mapM_cons, bind_eq_ok] at hread
    obtain ⟨fs, hfs, hread⟩ := hread
    obtain ⟨rest, hrest, hread⟩ := bind_eq_ok.1 hread
    cases hread
    obtain ⟨fs', hfs', hrespelled⟩ := hform.exists_readForm hfs
    obtain ⟨rest', hrest', hall⟩ := ih hrest
    refine ⟨fs' :: rest', ?_, .cons hrespelled hall⟩
    simp only [List.zipIdx_cons, List.mapM_cons, hfs', hrest']
    rfl

/-- A text that is rearranged is read as facts with the same rows. -/
theorem exists_parse_of_rearranged {text text' : String} {forms forms' : List Datum}
    (hread : readAll text = .ok forms) (hread' : readAll text' = .ok forms')
    (hforms : Rearranged forms forms') {sets : List FactSet} (hparse : parse text source = .ok sets) :
    ∃ sets', parse text' source = .ok sets' ∧ List.Forall₂ FactSet.Respelled sets sets' := by
  cases hforms with
  | named hnamed hforms =>
    have hnamed' : ∀ form ∈ forms', headWord? form = some "facts" := by
      intro form' hform'
      obtain ⟨form, hform, hrearranged⟩ := exists_mem_of_forall₂ hforms hform'
      rw [hrearranged.head, hnamed form hform]
    rw [parse_eq_of_named hread hnamed] at hparse
    rw [parse_eq_of_named hread' hnamed']
    exact exists_mapM_readForm hforms hparse
  | bare hbare hforms =>
    cases forms with
    | nil =>
      obtain rfl : forms' = [] := List.eq_nil_iff_forall_not_mem.2 fun form hform => by
        simpa using (hforms form).1 hform
      rw [parse_eq_of_named hread nofun] at hparse
      rw [parse_eq_of_named hread' nofun]
      exact exists_mapM_readForm .nil hparse
    | cons form forms =>
      have hne : forms' ≠ [] := List.ne_nil_of_mem ((hforms form).2 List.mem_cons_self)
      have hbare' : ∀ form ∈ forms', headWord? form ≠ some "facts" :=
        fun form hform => hbare form ((hforms form).1 hform)
      rw [parse_eq_of_bare hread (List.cons_ne_nil _ _) hbare] at hparse
      obtain ⟨fs, hfs, hparse⟩ := bind_eq_ok.1 hparse
      cases hparse
      obtain ⟨fs', hfs', hrespelled⟩ := exists_readRelations_of_mem_iff hforms hfs
      refine ⟨[fs'], ?_, .cons hrespelled .nil⟩
      rw [parse_eq_of_bare hread' hne hbare', hfs']
      rfl

end LoanCheck.Facts

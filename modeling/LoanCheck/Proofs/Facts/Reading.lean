import LoanCheck.Proofs.Facts.Numbering
import LoanCheck.Proofs.Sexp.Integers

/-!
# Reading forms row by row

A relation form writes down one row with names (`formRow`). Reading relation forms is reading their rows and making
facts of these (`readRelations_eq`), and a form is an entry that names a function, or none, and relation forms
(`readForm_eq_ok`). So all facts that come from a text are facts of written rows. Their points are not negative, and
have few enough digits to be written again (`exists_rows_of_parse`).
-/

namespace LoanCheck.Facts

open Solver Sexp Results

/-! ## Rows of forms -/

/-- The row that a relation has in columns. Columns are read from left to right. -/
def rowOf (source : String) (relation : RelationName) (columns : List Datum) :
    Except FactsFault (Row String String) := do
  match relation, columns with
  | .step, [a, b] => return .step (← pointOf source a) (← pointOf source b)
  | .inclusion, [a, b, c] =>
    return .inclusion (← nameOf source a) (← nameOf source b) (← pointOf source c)
  | .borrow, [a, b, c] => return .borrow (← nameOf source a) (← nameOf source b) (← pointOf source c)
  | .liveness, [a, b] => return .liveness (← nameOf source a) (← pointOf source b)
  | .kill, [a, b] => return .kill (← nameOf source a) (← pointOf source b)
  | .invalidation, [a, b] => return .invalidation (← pointOf source a) (← nameOf source b)
  | relation, columns => .error (.wrongArity source relation columns.length)

/-- The row that a relation form writes down. -/
def formRow (source : String) (form : Datum) : Except FactsFault (Row String String) :=
  match (headWord? form).bind RelationName.ofWord?, form with
  | some relation, .list (_ :: columns) => rowOf source relation columns
  | _, form => .error (.unknownRelation source form)

namespace FactSet

variable (fs : FactSet) (source : String)

theorem internRegion_eq (name : String) : fs.internRegion name =
    (position (addName fs.regionNames name) name,
      { fs with regionNames := addName fs.regionNames name }) := by
  rw [internRegion, intern_eq]

theorem internLoan_eq (name : String) : fs.internLoan name =
    (position (addName fs.loanNames name) name,
      { fs with loanNames := addName fs.loanNames name }) := by
  rw [internLoan, intern_eq]

/-- A row is added by noting the row that the columns give. -/
theorem addRow_eq (relation : RelationName) (columns : List Datum) :
    fs.addRow source relation columns = fs.note <$> rowOf source relation columns := by
  cases relation with
  | inclusion =>
    rcases columns with _ | ⟨a, _ | ⟨b, _ | ⟨c, _ | _⟩⟩⟩
    case cons.cons.cons.nil =>
      simp only [addRow, rowOf, internRegion_eq, map_bind, map_pure]
      refine bind_congr fun n => bind_congr fun m => bind_congr fun p => ?_
      -- the second region is numbered after the first one
      have hn : n ∈ addName fs.regionNames n := mem_addName.2 (.inr rfl)
      rw [← position_addName hn m]
      rfl
    all_goals rfl
  | borrow =>
    rcases columns with _ | ⟨a, _ | ⟨b, _ | ⟨c, _ | _⟩⟩⟩
    case cons.cons.cons.nil =>
      simp only [addRow, rowOf, internRegion_eq, internLoan_eq, map_bind, map_pure]
      rfl
    all_goals rfl
  | step | liveness | kill | invalidation =>
    rcases columns with _ | ⟨a, _ | ⟨b, _ | _⟩⟩
    case cons.cons.nil =>
      simp only [addRow, rowOf, internRegion_eq, internLoan_eq, map_bind, map_pure]
      rfl
    all_goals rfl

theorem addForm_eq (form : Datum) :
    fs.addForm source form = fs.note <$> formRow source form := by
  unfold addForm formRow
  cases (headWord? form).bind RelationName.ofWord? with
  | none => rfl
  | some relation =>
    cases form with
    | list items =>
      cases items with
      | nil => rfl
      | cons head columns => exact fs.addRow_eq source relation columns
    | _ => rfl

theorem foldlM_addForm (forms : List Datum) :
    forms.foldlM (addForm source) fs = (List.foldl note fs ·) <$> forms.mapM (formRow source) := by
  induction forms generalizing fs with
  | nil => rfl
  | cons form forms ih =>
    rw [List.foldlM_cons, List.mapM_cons, addForm_eq]
    simp only [ih, bind_map_left, map_bind, map_pure, List.foldl_cons]
    rfl

end FactSet

/-- Reading relations is reading their rows. -/
theorem readRelations_eq (source : String) (function : Option String) (forms : List Datum) :
    readRelations source function forms =
      FactSet.ofRows function <$> forms.mapM (formRow source) :=
  FactSet.foldlM_addForm ..

theorem readRelations_eq_ok {source : String} {function : Option String} {forms : List Datum}
    {fs : FactSet} : readRelations source function forms = .ok fs ↔
      ∃ rows, List.Forall₂ (fun form row => formRow source form = .ok row) forms rows ∧
        FactSet.ofRows function rows = fs := by
  simp only [readRelations_eq, map_eq_ok, mapM_eq_ok]

theorem mem_rows_of_forall₂ {source : String} {forms : List Datum} {rows : List (Row String String)}
    (h : List.Forall₂ (fun form row => formRow source form = .ok row) forms rows)
    {row : Row String String} : row ∈ rows ↔ ∃ form ∈ forms, formRow source form = .ok row := by
  constructor
  · exact exists_mem_of_forall₂ h
  · rintro ⟨form, hform, hrow⟩
    obtain ⟨row', hrow', heq⟩ := exists_mem_of_forall₂ h.flip hform
    rw [hrow] at heq
    cases heq
    exact hrow'

/-- The names and the points of a row stand in its columns. -/
theorem columns_of_rowOf {source : String} {relation : RelationName} {columns : List Datum}
    {row : Row String String} (h : rowOf source relation columns = .ok row) :
    (∀ n, n ∈ row.regions ∨ n ∈ row.loans → ∃ d ∈ columns, nameOf source d = .ok n) ∧
      ∀ p ∈ row.points, ∃ d ∈ columns, pointOf source d = .ok p := by
  unfold rowOf at h
  split at h
  case h_7 => cases h
  all_goals simp only [bind_eq_ok] at h
  case h_1 =>
    obtain ⟨p, hp, q, hq, h⟩ := h
    cases h
    simp [Row.regions, Row.loans, Row.points, hp, hq]
  case h_2 | h_3 =>
    obtain ⟨a, ha, b, hb, p, hp, h⟩ := h
    cases h
    simp [Row.regions, Row.loans, Row.points, ha, hb, hp]
  case h_4 | h_5 =>
    obtain ⟨a, ha, p, hp, h⟩ := h
    cases h
    simp [Row.regions, Row.loans, Row.points, ha, hp]
  case h_6 =>
    obtain ⟨p, hp, a, ha, h⟩ := h
    cases h
    simp [Row.regions, Row.loans, Row.points, ha, hp]

theorem exists_columns_of_formRow {source : String} {form : Datum} {row : Row String String}
    (h : formRow source form = .ok row) : ∃ head columns, form = .list (head :: columns) := by
  unfold formRow at h
  split at h
  next => exact ⟨_, _, rfl⟩
  next => cases h

theorem columns_of_formRow {source : String} {head : Datum} {columns : List Datum} {row : Row String String}
    (h : formRow source (.list (head :: columns)) = .ok row) :
    (∀ n, n ∈ row.regions ∨ n ∈ row.loans → ∃ d ∈ columns, nameOf source d = .ok n) ∧
      ∀ p ∈ row.points, ∃ d ∈ columns, pointOf source d = .ok p := by
  unfold formRow at h
  split at h
  next heq =>
    cases heq
    exact columns_of_rowOf h
  next => cases h

/-! ## Whole forms -/

/-- The entry of a form that names its function. -/
def nameDatum? : Datum → Option Datum
  | .list (_ :: .list _ :: _) => none
  | .list (_ :: name :: _) => some name
  | _ => none

/-- The relation forms of a form. -/
def relationForms : Datum → List Datum
  | .list (_ :: .list items :: rest) => .list items :: rest
  | .list (_ :: _ :: rest) => rest
  | _ => []

theorem readForm_eq (source : String) (form : Datum) : readForm source form = (do
    readRelations source (← (nameDatum? form).mapM (nameOf source)) (relationForms form)) := by
  cases form with
  | list items =>
    rcases items with _ | ⟨head, _ | ⟨entry, rest⟩⟩
    case cons.cons =>
      cases entry with
      | list items => rfl
      | _ => simp only [readForm, nameDatum?, relationForms, Option.mapM_some, bind_map_left]
    all_goals rfl
  | _ => rfl

theorem readForm_eq_ok {source : String} {form : Datum} {fs : FactSet} :
    readForm source form = .ok fs ↔ ∃ function, (nameDatum? form).mapM (nameOf source) = .ok function ∧
      readRelations source function (relationForms form) = .ok fs := by
  rw [readForm_eq, bind_eq_ok]

theorem parse_eq_of_named {text source : String} {forms : List Datum} (hread : readAll text = .ok forms)
    (h : ∀ form ∈ forms, headWord? form = some "facts") : parse text source =
      forms.zipIdx.mapM fun (form, i) => readForm (formSource source i) form := by
  unfold parse
  rw [hread]
  cases forms with
  | nil => rfl
  | cons form forms => simp_all [Except.mapError, bind, Except.bind]

theorem parse_eq_of_bare {text source : String} {forms : List Datum} (hread : readAll text = .ok forms)
    (hne : forms ≠ []) (h : ∀ form ∈ forms, headWord? form ≠ some "facts") :
    parse text source = (do return [← readRelations source none forms]) := by
  have hempty : forms.isEmpty = false := by simpa using hne
  have hany : forms.any (headWord? · == some "facts") = false := by simpa using h
  have hall : forms.all (headWord? · == some "facts") = false := by
    obtain ⟨form, hform⟩ := List.exists_mem_of_ne_nil forms hne
    exact List.all_eq_false.2 ⟨form, hform, by simpa using h form hform⟩
  unfold parse
  rw [hread]
  simp only [Except.mapError, bind, Except.bind, hempty, hall, hany]
  rfl

/-- A text that is read has forms about functions only, or relation forms only. -/
theorem exists_forms_of_parse {text source : String} {sets : List FactSet}
    (h : parse text source = .ok sets) : ∃ forms, readAll text = .ok forms ∧
      ((∀ form ∈ forms, headWord? form = some "facts") ∨
        forms ≠ [] ∧ ∀ form ∈ forms, headWord? form ≠ some "facts") := by
  unfold parse at h
  cases hread : readAll text with
  | error fault =>
    rw [hread] at h
    cases h
  | ok forms =>
    refine ⟨forms, rfl, ?_⟩
    by_cases hall : ∀ form ∈ forms, headWord? form = some "facts"
    · exact .inl hall
    · refine .inr ⟨fun hnil => hall (by simp [hnil]), fun form hform heq => ?_⟩
      -- a form about a function next to another one
      have hempty : forms.isEmpty = false := by simpa using List.ne_nil_of_mem hform
      have hall : forms.all (headWord? · == some "facts") = false := by simpa using hall
      have hany : forms.any (headWord? · == some "facts") = true := by simpa using ⟨form, hform, heq⟩
      rw [hread] at h
      simp only [Except.mapError, bind, Except.bind, hempty, hall, hany] at h
      cases h

/-! ## Points -/

/-- The points of the row are not negative, and have few enough digits to be written. -/
def Writable (row : Row String String) : Prop :=
  ∀ p ∈ row.points, 0 ≤ p ∧ Text.isWritable p = true

variable {source : String}

theorem pointOf_eq_ok_iff {d : Datum} {p : Point} : pointOf source d = .ok p ↔ d = .int p ∧ 0 ≤ p := by
  constructor
  · intro h
    unfold pointOf at h
    split at h
    next i =>
      split at h
      next h0 =>
        cases h
        exact ⟨rfl, h0⟩
      next => cases h
    next => cases h
  · rintro ⟨rfl, hp⟩
    exact if_pos hp

theorem of_pointOf {d : Datum} (hd : d.Writable) {p : Point} (h : pointOf source d = .ok p) :
    0 ≤ p ∧ Text.isWritable p = true := by
  obtain ⟨rfl, h0⟩ := pointOf_eq_ok_iff.1 h
  cases hd with
  | int hi => exact ⟨h0, hi⟩

theorem writable_of_formRow {form : Datum} {row : Row String String} (hform : form.Writable)
    (h : formRow source form = .ok row) : Writable row := by
  obtain ⟨head, columns, rfl⟩ := exists_columns_of_formRow h
  cases hform with
  | list hitems =>
    intro p hp
    obtain ⟨d, hd, hp⟩ := (columns_of_formRow h).2 p hp
    exact of_pointOf (hitems d (List.mem_cons_of_mem _ hd)) hp

/-- The facts of a form are the facts of relation forms inside of it. -/
theorem exists_readRelations_of_readForm {form : Datum} {fs : FactSet} (hform : form.Writable)
    (h : readForm source form = .ok fs) : ∃ function forms,
      readRelations source function forms = .ok fs ∧ ∀ form ∈ forms, form.Writable := by
  unfold readForm at h
  split at h
  next items rest =>
    cases hform with
    | list hitems => exact ⟨none, _, h, fun d hd => hitems d (List.mem_cons_of_mem _ hd)⟩
  next name rest _ =>
    obtain ⟨n, _, h⟩ := bind_eq_ok.1 h
    cases hform with
    | list hitems =>
      exact ⟨some n, rest, h, fun d hd => hitems d (by simp [hd])⟩
  next => exact ⟨none, [], h, nofun⟩

/-- Facts that are read are the facts of relation forms in the text. -/
theorem exists_readRelations_of_parse {text : String} {sets : List FactSet} {fs : FactSet}
    (h : parse text source = .ok sets) (hfs : fs ∈ sets) : ∃ source' function forms,
      readRelations source' function forms = .ok fs ∧ ∀ form ∈ forms, form.Writable := by
  obtain ⟨forms, hread, hnamed | ⟨hne, hbare⟩⟩ := exists_forms_of_parse h
  · rw [parse_eq_of_named hread hnamed] at h
    obtain ⟨⟨form, i⟩, hmem, hform⟩ := exists_mem_of_forall₂ (mapM_eq_ok.1 h) hfs
    have hmem : form ∈ forms := List.mem_of_getElem? (List.mk_mem_zipIdx_iff_getElem?.1 hmem)
    exact ⟨_, exists_readRelations_of_readForm (writable_of_readAll hread form hmem) hform⟩
  · rw [parse_eq_of_bare hread hne hbare] at h
    obtain ⟨fs', hrelations, h⟩ := bind_eq_ok.1 h
    cases h
    cases List.mem_singleton.1 hfs
    exact ⟨source, none, forms, hrelations, writable_of_readAll hread⟩

/-- Facts that are read are the facts of rows whose points can be written. -/
theorem exists_rows_of_parse {text : String} {sets : List FactSet} {fs : FactSet}
    (h : parse text source = .ok sets) (hfs : fs ∈ sets) :
    ∃ function rows, FactSet.ofRows function rows = fs ∧ ∀ row ∈ rows, Writable row := by
  obtain ⟨source', function, forms, hread, hforms⟩ := exists_readRelations_of_parse h hfs
  obtain ⟨rows, hrows, heq⟩ := readRelations_eq_ok.1 hread
  refine ⟨function, rows, heq, fun row hrow => ?_⟩
  obtain ⟨form, hmem, hrow⟩ := exists_mem_of_forall₂ hrows hrow
  exact writable_of_formRow (hforms form hmem) hrow

end LoanCheck.Facts

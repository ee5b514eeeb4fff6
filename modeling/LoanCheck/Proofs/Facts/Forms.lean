import LoanCheck.Proofs.Facts.Reading
import LoanCheck.Proofs.Solver.Mentions

/-!
# What a text of facts says

A relation form writes down one row (`Writes`) : a relation word, and a name or a point in each column. Relation forms
stand in a form that may name a function (`Frames`), or make up the text by themselves.

`FactSet.Records` is what facts are to be for written rows. Names are listed in order of first appearance, numbers
are their positions, and with names put back in the rows are the written ones. Rows leave no choice in this
(`FactSet.Records.eq_ofRows`). A text is read exactly if it is made of such forms, and each form is then recorded on
its own (`parse_eq_ok_iff`).
-/

namespace LoanCheck.Facts

open Solver Sexp Results

/-! ## Written rows -/

/-- The symbol is the word, with underscores taken for hyphens. -/
def Says (symbol word : String) : Prop :=
  (symbol.map fun c => if c = '_' then '-' else c) = word

/-- The atom spells the name. -/
inductive Spells : Datum → String → Prop where
  | symbol (name : String) : Spells (.symbol name) name
  | quoted (name : String) : Spells (.quoted (.symbol name)) ("'" ++ name)
  | string (text : String) : Spells (.string text) text
  | int (i : Int) : Spells (.int i) (toString i)

/-- The relation form writes down the row. -/
inductive Writes : Datum → Row String String → Prop where
  | step {s : String} {p q : Point} (hs : Says s "cfg-edge") (hp : 0 ≤ p) (hq : 0 ≤ q) :
      Writes (.list [.symbol s, .int p, .int q]) (.step p q)
  | inclusion {s n m : String} {a b : Datum} {p : Point} (hs : Says s "base-subset") (ha : Spells a n)
      (hb : Spells b m) (hp : 0 ≤ p) : Writes (.list [.symbol s, a, b, .int p]) (.inclusion n m p)
  | borrow {s n m : String} {a b : Datum} {p : Point} (hs : Says s "borrow-region") (ha : Spells a n)
      (hb : Spells b m) (hp : 0 ≤ p) : Writes (.list [.symbol s, a, b, .int p]) (.borrow n m p)
  | liveness {s n : String} {a : Datum} {p : Point} (hs : Says s "region-live-at") (ha : Spells a n) (hp : 0 ≤ p) :
      Writes (.list [.symbol s, a, .int p]) (.liveness n p)
  | kill {s n : String} {a : Datum} {p : Point} (hs : Says s "killed") (ha : Spells a n) (hp : 0 ≤ p) :
      Writes (.list [.symbol s, a, .int p]) (.kill n p)
  | invalidation {s n : String} {a : Datum} {p : Point} (hs : Says s "invalidates") (hp : 0 ≤ p) (ha : Spells a n) :
      Writes (.list [.symbol s, .int p, a]) (.invalidation p n)

theorem Writes.nonneg {form : Datum} {row : Row String String} (h : Writes form row) :
    ∀ p ∈ row.points, 0 ≤ p := by
  cases h <;> simp [Row.points, *]

variable {source : String}

theorem nameOf_eq_ok_iff {d : Datum} {n : String} : nameOf source d = .ok n ↔ Spells d n := by
  constructor
  · intro h
    unfold nameOf at h
    split at h <;> cases h <;> constructor
  · intro h
    cases h <;> rfl

theorem headWord?_eq_some_iff {form : Datum} {word : String} :
    headWord? form = some word ↔ ∃ s items, form = .list (.symbol s :: items) ∧ Says s word := by
  constructor
  · intro h
    unfold headWord? at h
    split at h
    next => exact ⟨_, _, rfl, Option.some.inj h⟩
    next => cases h
  · rintro ⟨s, items, rfl, hs⟩
    exact congrArg some hs

theorem word_of_ofWord? {word : String} {relation : RelationName} (h : RelationName.ofWord? word = some relation) :
    relation.word = word := by
  simpa using List.find?_some h

theorem formRow_eq_rowOf {s : String} (relation : RelationName) (hs : Says s relation.word) (columns : List Datum) :
    formRow source (.list (.symbol s :: columns)) = rowOf source relation columns := by
  have hrelation : (headWord? (.list (.symbol s :: columns))).bind RelationName.ofWord? = some relation := by
    rw [headWord?_eq_some_iff.2 ⟨s, columns, rfl, hs⟩]
    cases relation <;> decide
  unfold formRow
  rw [hrelation]

theorem writes_of_rowOf {s : String} {relation : RelationName} (hs : Says s relation.word) {columns : List Datum}
    {row : Row String String} (h : rowOf source relation columns = .ok row) :
    Writes (.list (.symbol s :: columns)) row := by
  unfold rowOf at h
  split at h
  case h_7 => cases h
  all_goals simp only [bind_eq_ok, nameOf_eq_ok_iff, pointOf_eq_ok_iff] at h
  case h_1 =>
    obtain ⟨p, ⟨rfl, hp⟩, q, ⟨rfl, hq⟩, h⟩ := h
    cases h
    exact .step hs hp hq
  case h_2 =>
    obtain ⟨n, ha, m, hb, p, ⟨rfl, hp⟩, h⟩ := h
    cases h
    exact .inclusion hs ha hb hp
  case h_3 =>
    obtain ⟨n, ha, m, hb, p, ⟨rfl, hp⟩, h⟩ := h
    cases h
    exact .borrow hs ha hb hp
  case h_4 =>
    obtain ⟨n, ha, p, ⟨rfl, hp⟩, h⟩ := h
    cases h
    exact .liveness hs ha hp
  case h_5 =>
    obtain ⟨n, ha, p, ⟨rfl, hp⟩, h⟩ := h
    cases h
    exact .kill hs ha hp
  case h_6 =>
    obtain ⟨p, ⟨rfl, hp⟩, n, ha, h⟩ := h
    cases h
    exact .invalidation hs hp ha

theorem formRow_of_writes {form : Datum} {row : Row String String} (h : Writes form row) :
    formRow source form = .ok row := by
  have hname : ∀ {d n}, Spells d n → nameOf source d = .ok n := nameOf_eq_ok_iff.2
  have hpoint : ∀ {p : Point}, 0 ≤ p → pointOf source (.int p) = .ok p := fun hp => pointOf_eq_ok_iff.2 ⟨rfl, hp⟩
  cases h with
  | step hs hp hq =>
    rw [formRow_eq_rowOf .step hs, rowOf, hpoint hp, hpoint hq]
    rfl
  | inclusion hs ha hb hp =>
    rw [formRow_eq_rowOf .inclusion hs, rowOf, hname ha, hname hb, hpoint hp]
    rfl
  | borrow hs ha hb hp =>
    rw [formRow_eq_rowOf .borrow hs, rowOf, hname ha, hname hb, hpoint hp]
    rfl
  | liveness hs ha hp =>
    rw [formRow_eq_rowOf .liveness hs, rowOf, hname ha, hpoint hp]
    rfl
  | kill hs ha hp =>
    rw [formRow_eq_rowOf .kill hs, rowOf, hname ha, hpoint hp]
    rfl
  | invalidation hs hp ha =>
    rw [formRow_eq_rowOf .invalidation hs, rowOf, hpoint hp, hname ha]
    rfl

theorem formRow_eq_ok_iff {form : Datum} {row : Row String String} :
    formRow source form = .ok row ↔ Writes form row := by
  refine ⟨fun h => ?_, formRow_of_writes⟩
  unfold formRow at h
  split at h
  next relation head columns hrelation =>
    obtain ⟨word, hhead, hword⟩ := Option.bind_eq_some_iff.1 hrelation
    obtain ⟨s, items, heq, hs⟩ := headWord?_eq_some_iff.1 hhead
    cases heq
    exact writes_of_rowOf (word_of_ofWord? hword ▸ hs) h
  next => cases h

/-! ## Facts of written rows -/

namespace FactSet

/-- The facts are those of the written rows, under numbers that come from these rows alone. -/
structure Records (fs : FactSet) (rows : List (Row String String)) : Prop where
  /-- Names are listed in order of first appearance. -/
  regionNames : fs.regionNames = (rows.flatMap Row.regions).eraseDups
  loanNames : fs.loanNames = (rows.flatMap Row.loans).eraseDups
  /-- They are distinct, and the numbers in use are their positions. -/
  dense : fs.Dense
  nonneg : ∀ p ∈ fs.base.points, 0 ≤ p
  /-- No row is lost and none is added. -/
  mem_spelled : ∀ row, row ∈ fs.spelled ↔ row ∈ rows

/-- The facts record what the relation forms write down, and are about the function. -/
def Holds (fs : FactSet) (function : Option String) (relations : List Datum) : Prop :=
  fs.function = function ∧ ∃ rows, List.Forall₂ Writes relations rows ∧ fs.Records rows

variable {fs : FactSet} {function : Option String} {rows : List (Row String String)}

theorem mem_points_iff_spelled (fs : FactSet) {p : Point} :
    p ∈ fs.base.points ↔ ∃ row ∈ fs.spelled, p ∈ row.points := by
  simp [Inputs.points, spelled]

theorem records_ofRows (function : Option String) (h : ∀ row ∈ rows, ∀ p ∈ row.points, 0 ≤ p) :
    (ofRows function rows).Records rows where
  regionNames := regionNames_ofRows function rows
  loanNames := loanNames_ofRows function rows
  dense := dense_ofRows function rows
  nonneg p hp := by
    obtain ⟨row, hrow, hp⟩ := (mem_points_iff_spelled _).1 hp
    exact h row ((mem_spelled_ofRows function rows).1 hrow) p hp
  mem_spelled _ := mem_spelled_ofRows function rows

/-- Names and rows determine the facts. -/
theorem Records.eq_ofRows (h : fs.Records rows) : ofRows fs.function rows = fs := by
  have hregions : (ofRows fs.function rows).regionNames = fs.regionNames :=
    (regionNames_ofRows ..).trans h.regionNames.symm
  have hloans : (ofRows fs.function rows).loanNames = fs.loanNames :=
    (loanNames_ofRows ..).trans h.loanNames.symm
  refine FactSet.ext (function_ofRows ..) (Inputs.eq_of_mem_rows fun r => ?_) hregions hloans
  simp only [mem_rows_ofRows, hregions, hloans, h.dense.mem_rows, h.mem_spelled]

end FactSet

theorem readRelations_eq_ok_iff {function : Option String} {relations : List Datum} {fs : FactSet} :
    readRelations source function relations = .ok fs ↔ fs.Holds function relations := by
  simp only [readRelations_eq_ok, formRow_eq_ok_iff]
  constructor
  · rintro ⟨rows, hrows, rfl⟩
    refine ⟨FactSet.function_ofRows .., rows, hrows, FactSet.records_ofRows function fun row hrow => ?_⟩
    obtain ⟨form, -, hform⟩ := exists_mem_of_forall₂ hrows hrow
    exact hform.nonneg
  · rintro ⟨rfl, rows, hrows, hrecords⟩
    exact ⟨rows, hrows, hrecords.eq_ofRows⟩

/-! ## Forms -/

/-- The form is about the function, if it names one, and has the relation forms. -/
inductive Frames : Datum → Option String → List Datum → Prop where
  | empty {s : String} (hs : Says s "facts") : Frames (.list [.symbol s]) none []
  | unnamed {s : String} {items rest : List Datum} (hs : Says s "facts") :
      Frames (.list (.symbol s :: .list items :: rest)) none (.list items :: rest)
  | named {s n : String} {d : Datum} {rest : List Datum} (hs : Says s "facts") (hd : Spells d n) :
      Frames (.list (.symbol s :: d :: rest)) (some n) rest

theorem Frames.headWord? {form : Datum} {function : Option String} {relations : List Datum}
    (h : Frames form function relations) : headWord? form = some "facts" := by
  cases h with
  | empty hs | unnamed hs | named hs _ => exact headWord?_eq_some_iff.2 ⟨_, _, rfl, hs⟩

theorem Writes.headWord?_ne {form : Datum} {row : Row String String} (h : Writes form row) :
    headWord? form ≠ some "facts" := by
  cases h with
  | step hs | inclusion hs | borrow hs | liveness hs | kill hs | invalidation hs =>
    rw [headWord?_eq_some_iff.2 ⟨_, _, rfl, hs⟩]
    decide

theorem FactSet.Holds.headWord?_ne {fs : FactSet} {function : Option String} {relations : List Datum}
    (h : fs.Holds function relations) : ∀ form ∈ relations, headWord? form ≠ some "facts" := by
  obtain ⟨-, rows, hrows, -⟩ := h
  intro form hform
  obtain ⟨row, -, hrow⟩ := exists_mem_of_forall₂ hrows.flip hform
  exact hrow.headWord?_ne

/-- A form is read as the facts of its relation forms. -/
theorem readForm_eq_ok_iff (source : String) {form : Datum} {fs : FactSet} :
    headWord? form = some "facts" ∧ readForm source form = .ok fs ↔
      ∃ function relations, Frames form function relations ∧ fs.Holds function relations := by
  simp only [← @readRelations_eq_ok_iff source]
  constructor
  · rintro ⟨hhead, h⟩
    obtain ⟨s, items, rfl, hs⟩ := headWord?_eq_some_iff.1 hhead
    rcases items with _ | ⟨entry, rest⟩
    · exact ⟨none, [], .empty hs, h⟩
    · cases entry with
      | list items => exact ⟨none, _, .unnamed hs, h⟩
      | _ =>
        obtain ⟨n, hn, h⟩ := bind_eq_ok.1 h
        exact ⟨some n, rest, .named hs (nameOf_eq_ok_iff.1 hn), h⟩
  · rintro ⟨function, relations, hframes, h⟩
    refine ⟨hframes.headWord?, ?_⟩
    cases hframes with
    | empty | unnamed => exact h
    | named _ hd => cases hd <;> exact h

/-- Forms are read one by one. Where a form stands matters to messages only. -/
theorem mapM_readForm_eq_ok_iff {forms : List Datum} {sets : List FactSet} :
    ((∀ form ∈ forms, headWord? form = some "facts") ∧
        (forms.zipIdx.mapM fun (form, i) => readForm (formSource source i) form) = .ok sets) ↔
      List.Forall₂ (fun form fs => ∃ function relations, Frames form function relations ∧
        fs.Holds function relations) forms sets := by
  have hforms : forms = forms.zipIdx.map Prod.fst := (List.zipIdx_map_fst 0 forms).symm
  have hhead : (∀ form ∈ forms, headWord? form = some "facts") ↔
      ∀ x ∈ forms.zipIdx, headWord? x.1 = some "facts" := by
    conv_lhs => rw [hforms]
    exact List.forall_mem_map
  rw [mapM_eq_ok, hhead, ← List.forall₂_and_left]
  conv_rhs => rw [hforms]
  simp only [readForm_eq_ok_iff, List.forall₂_map_left_iff]

/-- A text is read as fact sets exactly if it is a sequence of forms about functions or of relation forms, and each
set records the rows of its own form. The names of the set are then the distinct names of these rows in order of
first appearance, its numbers the positions of the names, its points are not negative, and with names put back in
its rows are those of the form. -/
theorem parse_eq_ok_iff {text : String} {sets : List FactSet} :
    parse text source = .ok sets ↔ ∃ forms, readAll text = .ok forms ∧
      (List.Forall₂ (fun form fs => ∃ function relations, Frames form function relations ∧
          fs.Holds function relations) forms sets ∨
        forms ≠ [] ∧ ∃ fs, sets = [fs] ∧ fs.Holds none forms) := by
  constructor
  · intro h
    obtain ⟨forms, hread, hnamed | ⟨hne, hbare⟩⟩ := exists_forms_of_parse h
    · rw [parse_eq_of_named hread hnamed] at h
      exact ⟨forms, hread, .inl (mapM_readForm_eq_ok_iff.1 ⟨hnamed, h⟩)⟩
    · rw [parse_eq_of_bare hread hne hbare] at h
      obtain ⟨fs, hfs, h⟩ := bind_eq_ok.1 h
      cases h
      exact ⟨forms, hread, .inr ⟨hne, fs, rfl, readRelations_eq_ok_iff.1 hfs⟩⟩
  · rintro ⟨forms, hread, hforms | ⟨hne, fs, rfl, hfs⟩⟩
    · obtain ⟨hnamed, h⟩ := mapM_readForm_eq_ok_iff.2 hforms
      rw [parse_eq_of_named hread hnamed, h]
    · rw [parse_eq_of_bare hread hne hfs.headWord?_ne, readRelations_eq_ok_iff.2 hfs]
      rfl

/-- Each form has numbers of its own. Names are told apart by how they are spelled, of whatever sort they are. -/
example : ((parse "(facts f (killed b 0) (killed 'a 1)) (facts (borrow_region r 07 0) (killed \"7\" 0) (killed a 0))"
      "").toOption.map fun sets => sets.map fun fs => (fs.loanNames, fs.base.kills.toList.map (·.loan))) =
    some [(["b", "'a"], [0, 1]), (["7", "a"], [0, 1])] := by
  decide +kernel

end LoanCheck.Facts

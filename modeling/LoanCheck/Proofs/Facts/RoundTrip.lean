import LoanCheck.Proofs.Facts.Names
import LoanCheck.Proofs.Facts.Reading
import LoanCheck.Proofs.Text.Joining

/-!
# Written facts are read back

The text of a fact set stands for one form, and is read as what the first line and the rows stand for
(`FactSet.exists_parse_write_iff`). A written row stands for a form that writes down the same row, if its names are
read back (`restores_rowText`), and the text is then read as the facts of its rows (`FactSet.parse_write_eq`).

Rows are written relation by relation, in the order of their old numbers, and numbered anew when they are read. So
the facts come back with the same names and the same rows under these names, and with the same numbers only if
these were given in the order of writing (`parse_write_of_readsBack`).
-/

namespace LoanCheck.Facts

open Solver Sexp

/-! ## Words of forms -/

/-- The word of a form is its first symbol, if that has no underscores. -/
theorem headWord?_of_symbol {word : String} (h : '_' ∉ word.toList) (items : List Datum) :
    headWord? (.list (.symbol word :: items)) = some word := by
  have hmap : (word.map fun c => if c = '_' then '-' else c) = word := by
    rw [← String.toList_inj, String.toList_map]
    refine (List.map_congr_left fun c hc => if_neg ?_).trans (List.map_id _)
    rintro rfl
    exact h hc
  rw [headWord?, hmap]

theorem ofWord?_headWord? (relation : RelationName) (columns : List Datum) :
    (headWord? (.list (.symbol relation.word :: columns))).bind RelationName.ofWord? = some relation := by
  rw [headWord?_of_symbol (by cases relation <;> decide)]
  cases relation <;> decide

/-- A character that words of forms are made of. -/
def isWordChar (c : Char) : Bool := isNameChar c || c == '-'

theorem readsAs_symbol {word : String} (hne : word ≠ "") (hword : word.toList.all isWordChar = true)
    (hsymbol : Datum.ofWord word = .symbol word) : ReadsAs word.toList [.symbol word] := by
  have hreads := ReadsAs.word (isWord_of_class (by decide) (by decide)
    (fun h => hne (String.toList_eq_nil_iff.1 h)) hword)
  rwa [String.ofList_toList, hsymbol] at hreads

theorem readsAs_word (relation : RelationName) :
    ReadsAs relation.word.toList [.symbol relation.word] := by
  cases relation <;> exact readsAs_symbol (by decide) (by decide) rfl

theorem readsAs_facts : ReadsAs "facts".toList [.symbol "facts"] :=
  readsAs_symbol (by decide) (by decide) rfl

/-! ## Rows -/

/-- The relation of a row. -/
def relationOf {ρ l : Type} : Row ρ l → RelationName
  | .step _ _ => .step
  | .inclusion _ _ _ => .inclusion
  | .borrow _ _ _ => .borrow
  | .liveness _ _ => .liveness
  | .kill _ _ => .kill
  | .invalidation _ _ => .invalidation

/-- The columns of a row as they are written. -/
def writtenColumns : Row String String → List String
  | .step p q => [toString p, toString q]
  | .inclusion r r' p => [writtenName r, writtenName r', toString p]
  | .borrow r x p => [writtenName r, writtenName x, toString p]
  | .liveness r p => [writtenName r, toString p]
  | .kill x p => [writtenName x, toString p]
  | .invalidation p x => [toString p, writtenName x]

theorem FactSet.rows_eq (fs : FactSet) :
    fs.rows = fs.spelled.map fun row => rowText (relationOf row) (writtenColumns row) := by
  simp only [rows, spelled, Inputs.rows, List.map_append, List.map_map]
  rfl

/-- A written row stands for its form, if the columns stand for data. -/
theorem readsAs_rowText (relation : RelationName) {columns : List String} {ds : List Datum}
    (h : List.Forall₂ (fun column d => ReadsAs column.toList [d]) columns ds) :
    ReadsAs (FactSet.rowText relation columns).toList [.list (.symbol relation.word :: ds)] := by
  have hcolumns : ReadsAs ((columns.map String.toList).flatMap (' ' :: ·)) ds :=
    .separated (by decide) (List.forall₂_map_left_iff.2 h)
  have hrow := ((readsAs_word relation).append hcolumns (ends_flatMap_cons rfl _)).brackets
  have htext : (FactSet.rowText relation columns).toList = ' ' :: ' ' ::
      '(' :: (relation.word.toList ++ (columns.map String.toList).flatMap (' ' :: ·) ++ [')']) := by
    rw [FactSet.rowText, String.toList_append, String.toList_append, Text.toList_intercalate (c := ' ') rfl]
    rfl
  rw [htext]
  exact (hrow.blank_cons (by decide)).blank_cons (by decide)

/-- The columns of a row are read back, if its names are. -/
theorem exists_columns_of_readsBack {row : Row String String} (hregions : ∀ n ∈ row.regions, ReadsBack n)
    (hloans : ∀ n ∈ row.loans, ReadsBack n) (hpoints : Writable row) :
    ∃ ds, List.Forall₂ (fun column d => ReadsAs column.toList [d]) (writtenColumns row) ds ∧
      ∀ source, rowOf source (relationOf row) ds = .ok row := by
  have hpoint : ∀ {p}, p ∈ row.points → ReadsAs (toString p).toList [.int p] ∧
      ∀ source, pointOf source (.int p) = .ok p :=
    fun hp => ⟨readsAs_toString (hpoints _ hp).1 (hpoints _ hp).2, fun _ => pointOf_eq_ok_iff.2 ⟨rfl, (hpoints _ hp).1⟩⟩
  cases row with
  | step p q =>
    obtain ⟨hp, hp'⟩ := hpoint (p := p) (by simp [Row.points])
    obtain ⟨hq, hq'⟩ := hpoint (p := q) (by simp [Row.points])
    refine ⟨[.int p, .int q], .cons hp (.cons hq .nil), fun source => ?_⟩
    simp only [rowOf, relationOf, hp', hq']
    rfl
  | inclusion r r' p =>
    obtain ⟨d, hd, hn⟩ := (hregions r (by simp [Row.regions])).readsAs
    obtain ⟨d', hd', hn'⟩ := (hregions r' (by simp [Row.regions])).readsAs
    obtain ⟨hp, hp'⟩ := hpoint (p := p) (by simp [Row.points])
    refine ⟨[d, d', .int p], .cons hd (.cons hd' (.cons hp .nil)), fun source => ?_⟩
    simp only [rowOf, relationOf, hn, hn', hp']
    rfl
  | borrow r x p =>
    obtain ⟨d, hd, hn⟩ := (hregions r (by simp [Row.regions])).readsAs
    obtain ⟨d', hd', hn'⟩ := (hloans x (by simp [Row.loans])).readsAs
    obtain ⟨hp, hp'⟩ := hpoint (p := p) (by simp [Row.points])
    refine ⟨[d, d', .int p], .cons hd (.cons hd' (.cons hp .nil)), fun source => ?_⟩
    simp only [rowOf, relationOf, hn, hn', hp']
    rfl
  | liveness r p =>
    obtain ⟨d, hd, hn⟩ := (hregions r (by simp [Row.regions])).readsAs
    obtain ⟨hp, hp'⟩ := hpoint (p := p) (by simp [Row.points])
    refine ⟨[d, .int p], .cons hd (.cons hp .nil), fun source => ?_⟩
    simp only [rowOf, relationOf, hn, hp']
    rfl
  | kill x p =>
    obtain ⟨d, hd, hn⟩ := (hloans x (by simp [Row.loans])).readsAs
    obtain ⟨hp, hp'⟩ := hpoint (p := p) (by simp [Row.points])
    refine ⟨[d, .int p], .cons hd (.cons hp .nil), fun source => ?_⟩
    simp only [rowOf, relationOf, hn, hp']
    rfl
  | invalidation p x =>
    obtain ⟨hp, hp'⟩ := hpoint (p := p) (by simp [Row.points])
    obtain ⟨d, hd, hn⟩ := (hloans x (by simp [Row.loans])).readsAs
    refine ⟨[.int p, d], .cons hp (.cons hd .nil), fun source => ?_⟩
    simp only [rowOf, relationOf, hn, hp']
    rfl

/-- The text stands for a form that writes down the row. -/
def Restores (text : String) (row : Row String String) : Prop :=
  ∃ items, ReadsAs text.toList [.list items] ∧ ∀ source, formRow source (.list items) = .ok row

/-- A written row is read back, if its names are. -/
theorem restores_rowText {row : Row String String} (hregions : ∀ n ∈ row.regions, ReadsBack n)
    (hloans : ∀ n ∈ row.loans, ReadsBack n) (hpoints : Writable row) :
    Restores (FactSet.rowText (relationOf row) (writtenColumns row)) row := by
  obtain ⟨ds, hcolumns, hrow⟩ := exists_columns_of_readsBack hregions hloans hpoints
  refine ⟨_, readsAs_rowText (relationOf row) hcolumns, fun source => ?_⟩
  simp only [formRow, ofWord?_headWord?]
  exact hrow source

theorem exists_forms_of_restores {texts : List String} {rows : List (Row String String)}
    (h : List.Forall₂ Restores texts rows) :
    ∃ forms, List.Forall₂ (fun text form => ReadsAs text.toList [form]) texts forms ∧
      (∀ form ∈ forms, ∃ items, form = .list items) ∧
      ∀ source, List.Forall₂ (fun form row => formRow source form = .ok row) forms rows := by
  induction h with
  | nil => exact ⟨[], .nil, nofun, fun _ => .nil⟩
  | cons htext _ ih =>
    obtain ⟨items, hreads, hrow⟩ := htext
    obtain ⟨forms, htexts, hlists, hrows⟩ := ih
    exact ⟨.list items :: forms, .cons hreads htexts, List.forall_mem_cons.2 ⟨⟨items, rfl⟩, hlists⟩,
      fun source => .cons (hrow source) (hrows source)⟩

/-! ## Whole fact sets -/

namespace FactSet

variable {fs : FactSet}

/-- What stands in front of the rows : the datum of the function's name. An empty name is left out. -/
inductive Heads : Option String → List Datum → Prop where
  | unnamed : Heads none []
  | empty : Heads (some "") []
  | named {name : String} {d : Datum} : name ≠ "" → ReadsAs (writtenName name).toList [d] → Heads (some name) [d]

theorem exists_headLine (fs : FactSet) : ∃ cs ds, fs.headLine.toList = '(' :: cs ∧
    ReadsAs cs (.symbol "facts" :: ds) ∧ Heads fs.function ds := by
  unfold headLine
  cases fs.function with
  | none => exact ⟨"facts".toList, [], rfl, readsAs_facts, .unnamed⟩
  | some name =>
    by_cases hname : name = ""
    · subst hname
      exact ⟨"facts".toList, [], rfl, readsAs_facts, .empty⟩
    · obtain ⟨d, hd, -⟩ := exists_renders name
      refine ⟨"facts".toList ++ ' ' :: (writtenName name).toList, [d], ?_,
        readsAs_facts.append (hd.blank_cons (by decide)) rfl, .named hname hd⟩
      simp only [String.isEmpty_eq_false_iff.2 hname, Bool.false_eq_true, if_false, String.toList_append]
      rfl

/-- The text of a fact set stands for one form, if its rows do. -/
theorem exists_readsAs_write {forms : List Datum}
    (htexts : List.Forall₂ (fun text form => ReadsAs text.toList [form]) fs.rows forms) :
    ∃ ds, ReadsAs fs.write.toList [.list (.symbol "facts" :: (ds ++ forms))] ∧ Heads fs.function ds := by
  obtain ⟨cs, ds, hhead, hcs, hheads⟩ := fs.exists_headLine
  refine ⟨ds, ?_, hheads⟩
  have hlines : ReadsAs ((fs.rows.map String.toList).flatMap ('\n' :: ·)) forms :=
    .separated (by decide) (List.forall₂_map_left_iff.2 htexts)
  have htext : fs.write.toList =
      '(' :: (cs ++ (fs.rows.map String.toList).flatMap ('\n' :: ·) ++ [')']) ++ ['\n'] := by
    rw [write, String.toList_append, Text.toList_intercalate (c := '\n') rfl, hhead]
    simp
  rw [htext]
  exact (hcs.append hlines (ends_flatMap_cons rfl _)).brackets.append (.blank_cons (by decide) .nil) rfl

/-- The parts of the form of a fact set. -/
theorem Heads.parts {function : Option String} {ds forms : List Datum} (h : Heads function ds)
    (hforms : ∀ form ∈ forms, ∃ items, form = .list items) (head : Datum) :
    nameDatum? (.list (head :: (ds ++ forms))) = ds.head? ∧
      relationForms (.list (head :: (ds ++ forms))) = forms := by
  cases h with
  | unnamed | empty =>
    cases forms with
    | nil => exact ⟨rfl, rfl⟩
    | cons form forms =>
      obtain ⟨items, rfl⟩ := hforms form List.mem_cons_self
      exact ⟨rfl, rfl⟩
  | @named name d _ hd =>
    obtain ⟨d', hd', hrenders⟩ := exists_renders name
    obtain rfl : d = d' := hd.unique hd'
    have hlist := hrenders.ne_list
    cases d with
    | list items => exact absurd rfl (hlist items)
    | _ => exact ⟨rfl, rfl⟩

/-- The text of a fact set is read as the facts that its rows stand for. -/
theorem exists_parse_write_iff {forms : List Datum}
    (htexts : List.Forall₂ (fun text form => ReadsAs text.toList [form]) fs.rows forms)
    (hforms : ∀ form ∈ forms, ∃ items, form = .list items) :
    ∃ ds, Heads fs.function ds ∧ ∀ source sets, parse fs.write source = .ok sets ↔
      ∃ function fs', ds.head?.mapM (nameOf (formSource source 0)) = .ok function ∧
        readRelations (formSource source 0) function forms = .ok fs' ∧ [fs'] = sets := by
  obtain ⟨ds, hreads, hheads⟩ := exists_readsAs_write htexts
  obtain ⟨hentry, hrelations⟩ := hheads.parts hforms (.symbol "facts")
  refine ⟨ds, hheads, fun source sets => ?_⟩
  have hword := headWord?_of_symbol (show '_' ∉ "facts".toList by decide) (ds ++ forms)
  rw [parse_eq_of_named (readAll_of_readsAs hreads) (by simpa using hword), mapM_eq_ok]
  simp only [List.zipIdx_singleton, List.forall₂_cons_left_iff, List.forall₂_nil_left_iff, readForm_eq_ok, hentry,
    hrelations]
  constructor
  · rintro ⟨fs', _, ⟨function, hfunction, hread⟩, rfl, rfl⟩
    exact ⟨function, fs', hfunction, hread, rfl⟩
  · rintro ⟨function, fs', hfunction, hread, rfl⟩
    exact ⟨fs', [], ⟨function, hfunction, hread⟩, rfl, rfl⟩

/-- The name of the function is read back. -/
theorem Heads.mapM_nameOf {function : Option String} {ds : List Datum} (h : Heads function ds)
    (hempty : function ≠ some "") (hname : ∀ n, function = some n → ReadsBack n) (source : String) :
    ds.head?.mapM (nameOf source) = .ok function := by
  cases h with
  | unnamed => rfl
  | empty => exact absurd rfl hempty
  | @named name d _ hd =>
    obtain ⟨d', hd', hn⟩ := (hname name rfl).readsAs
    obtain rfl : d = d' := hd.unique hd'
    rw [List.head?_cons, Option.mapM_some, hn]
    rfl

/-- The text of a fact set is read as the facts of its rows. -/
theorem parse_write_eq (hempty : fs.function ≠ some "") (hname : ∀ n, fs.function = some n → ReadsBack n)
    (hrows : List.Forall₂ Restores fs.rows fs.spelled) (source : String) :
    parse fs.write source = .ok [ofRows fs.function fs.spelled] := by
  obtain ⟨forms, htexts, hlists, hrows⟩ := exists_forms_of_restores hrows
  obtain ⟨ds, hheads, hparse⟩ := exists_parse_write_iff htexts hlists
  exact (hparse source _).2 ⟨_, _, hheads.mapM_nameOf hempty hname _, readRelations_eq_ok.2 ⟨_, hrows _, rfl⟩, rfl⟩

end FactSet

/-- Facts that were read, written and read again are about the same function, have the same names, and have the same
rows under these names, if every name is read back. They have the same numbers exactly if these were in the order
of writing. -/
theorem parse_write_of_readsBack {text source : String} {sets : List FactSet} {fs : FactSet}
    (hparse : parse text source = .ok sets) (hfs : fs ∈ sets) (hempty : fs.function ≠ some "")
    (hregions : ∀ n ∈ fs.regionNames, ReadsBack n) (hloans : ∀ n ∈ fs.loanNames, ReadsBack n)
    (hfunction : ∀ n, fs.function = some n → ReadsBack n) (source' : String) :
    ∃ fs', parse fs.write source' = .ok [fs'] ∧ fs'.function = fs.function ∧
      (∀ n, n ∈ fs'.regionNames ↔ n ∈ fs.regionNames) ∧
      (∀ n, n ∈ fs'.loanNames ↔ n ∈ fs.loanNames) ∧
      (∀ row, row ∈ fs'.spelled ↔ row ∈ fs.spelled) ∧ (fs' = fs ↔ fs.Ordered) := by
  obtain ⟨function, rows, heq, hwritable⟩ := exists_rows_of_parse hparse hfs
  have hdense : fs.Dense := heq ▸ FactSet.dense_ofRows function rows
  have hrows : List.Forall₂ Restores fs.rows fs.spelled := by
    rw [FactSet.rows_eq, List.forall₂_map_left_iff, List.forall₂_same]
    intro row hrow
    refine restores_rowText (fun n hn => hregions n ?_) (fun n hn => hloans n ?_) (hwritable row ?_)
    · exact hdense.mem_regionNames_of_spelled.1 (List.mem_flatMap.2 ⟨row, hrow, hn⟩)
    · exact hdense.mem_loanNames_of_spelled.1 (List.mem_flatMap.2 ⟨row, hrow, hn⟩)
    · subst heq
      exact (FactSet.mem_spelled_ofRows function rows).1 hrow
  refine ⟨_, FactSet.parse_write_eq hempty hfunction hrows source', FactSet.function_ofRows .., fun n => ?_,
    fun n => ?_, fun row => FactSet.mem_spelled_ofRows .., FactSet.ofRows_spelled_eq_iff hdense⟩
  · rw [FactSet.regionNames_ofRows, List.mem_eraseDups, hdense.mem_regionNames_of_spelled]
  · rw [FactSet.loanNames_ofRows, List.mem_eraseDups, hdense.mem_loanNames_of_spelled]

/-- Names may be identifiers, digits, quoted or any text. The inclusion is written in front of the borrow, so that
the two regions change their numbers. -/
theorem parse_write_of_readsBack_renumbered :
    ∃ fs fs', parse "(facts f (borrow-region 'a 12 1) (base-subset \"b c\" 'a 0))" "old" = .ok [fs] ∧
      fs.regionNames = ["'a", "b c"] ∧ fs.loanNames = ["12"] ∧
      (∀ n ∈ ["'a", "b c", "12", "f"], ReadsBack n) ∧
      parse fs.write "new" = .ok [fs'] ∧ fs'.function = some "f" ∧
      (∀ row, row ∈ fs'.spelled ↔ row ∈ fs.spelled) ∧ fs' ≠ fs := by
  have hread : (parse "(facts f (borrow-region 'a 12 1) (base-subset \"b c\" 'a 0))" "old").toOption =
      some [FactSet.ofRows (some "f") [.borrow "'a" "12" 1, .inclusion "b c" "'a" 0]] := by
    decide +kernel
  generalize hfs : FactSet.ofRows (some "f") [.borrow "'a" "12" 1, .inclusion "b c" "'a" 0] = fs at hread
  have hregions : fs.regionNames = ["'a", "b c"] := by
    rw [← hfs]
    decide +kernel
  have hloans : fs.loanNames = ["12"] := by
    rw [← hfs]
    decide +kernel
  have hfunction : fs.function = some "f" := by
    rw [← hfs, FactSet.function_ofRows]
  have hordered : ¬ fs.Ordered := by
    rintro ⟨h, -⟩
    rw [← hfs] at h
    exact absurd h (by decide +kernel)
  have hquoted : ReadsBack "'a" := ⟨.quoted (.symbol "a"), rfl, fun _ => rfl⟩
  have hstring : ReadsBack "b c" := ⟨.string "b c", rfl, fun _ => rfl⟩
  have hdigits : ReadsBack "12" := ⟨.int 12, rfl, fun _ => rfl⟩
  have hidentifier : ReadsBack "f" := ⟨.symbol "f", rfl, fun _ => rfl⟩
  cases hparse : parse "(facts f (borrow-region 'a 12 1) (base-subset \"b c\" 'a 0))" "old" with
  | error fault =>
    rw [hparse] at hread
    cases hread
  | ok sets =>
    rw [hparse] at hread
    cases hread
    obtain ⟨fs', hwrite, hfunction', -, -, hspelled, heq⟩ :=
      parse_write_of_readsBack hparse List.mem_cons_self (by simp [hfunction])
        (by simp [hregions, hquoted, hstring]) (by simp [hloans, hdigits])
        (by simp [hfunction, hidentifier]) "new"
    exact ⟨fs, fs', rfl, hregions, hloans, by simp [hquoted, hstring, hdigits, hidentifier], hwrite,
      hfunction'.trans hfunction, hspelled, fun h => hordered (heq.1 h)⟩

end LoanCheck.Facts

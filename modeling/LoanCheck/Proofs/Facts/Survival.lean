import LoanCheck.Proofs.Facts.RoundTrip
import LoanCheck.Proofs.Facts.Words

/-!
# Names that survive being written

Not every name comes back from a text. A numeral comes back as its number is written, so that a name of digits loses
its zeros in front, and the words for infinity and for no number come back as doubles, which are no names. A line
break after an identifier is a blank. `isAltered` tells these names from all others : a name is read back exactly if
it is none of them (`readsBack_iff`), and what is read in its place is none of them either (`Renders.not_isAltered`).

So facts that are written and read again have the rows they had exactly if no name of theirs is altered and the
function's name, if there is one, is not empty (`parse_write_keeps_names_iff`).
-/

namespace LoanCheck.Facts

open Solver Sexp Results

/-! ## Altered names -/

/-- A numeral that is not how its number is written : it has digits of other scripts, zeros in front, or too many
digits. -/
def isLooseNumeral (cs : List Char) : Bool :=
  !cs.isEmpty && cs.all (fun c => (Text.decimalValue? c).isSome) &&
    (cs.any (!·.isDigit) || (cs.head? = some '0' && cs.length ≠ 1) || Text.maxDigits < cs.length)

/-- The text behind an apostrophe, if there is one. -/
def unquoted : List Char → List Char
  | '\'' :: rest => rest
  | cs => cs

/-- The name does not come back from its text : it is a loose numeral, an identifier with a line break after it, or a
word for a number. -/
def isAltered (name : String) : Bool :=
  isLooseNumeral name.toList || (isBareName name.toList &&
    (name.toList.getLast? = some '\n' || Text.isWordOf Text.numberWords (unquoted name.toList)))

/-! ## Numerals -/

theorem eq_map_placeValue {cs : List Char} {ds : List ℕ} (h : Text.PlaceValues cs ds)
    (hdigits : ∀ c ∈ cs, c.isDigit = true) : ds = cs.map Text.placeValue := by
  induction h with
  | nil => rfl
  | cons hc _ ih =>
    rw [Text.decimalValue?_of_isDigit (hdigits _ List.mem_cons_self)] at hc
    cases hc
    rw [List.map_cons, ← ih fun c hc => hdigits c (List.mem_cons_of_mem _ hc)]

/-- A numeral of some length is how its number is written, unless it is loose. -/
theorem toDigits_ofDigits_eq_iff {cs : List Char} {ds : List ℕ} (h : Text.PlaceValues cs ds) (hne : cs ≠ [])
    (hlength : ds.length ≤ Text.maxDigits) :
    Nat.toDigits 10 (Text.ofDigits ds) = cs ↔ isLooseNumeral cs = false := by
  have hlong : ¬Text.maxDigits < cs.length := by
    rw [h.length_eq]
    omega
  by_cases hdigits : ∀ c ∈ cs, c.isDigit = true
  · have hany : cs.any (!·.isDigit) = false := by simpa using hdigits
    rw [eq_map_placeValue h hdigits, Text.toDigits_ofDigits_iff hne hdigits, isLooseNumeral,
      Text.all_isSome_of_placeValues h, hany, decide_eq_false hlong]
    simp [hne]
  · have hany : cs.any (!·.isDigit) = true := by simpa using hdigits
    refine iff_of_false (fun heq => hdigits fun c hc => ?_) ?_
    · rw [← heq] at hc
      exact Nat.isDigit_of_mem_toDigits (by decide) (by decide) hc
    · simp [isLooseNumeral, Text.all_isSome_of_placeValues h, hany, hne]

theorem isBareName_of_isDigit {c : Char} (h : Text.isDigit c = true) (cs : List Char) :
    isBareName (c :: cs) = false := by
  have hquote : c ≠ '\'' := Text.ne_of_isDigit h (by decide)
  have hstart : isNameStart c ≠ true := by
    intro hstart
    have hc := Datum.toNat_of_isNameStart hstart
    have := Text.toNat_of_isDigit (Text.isDigit_of_ascii hc.2 h)
    omega
  simp [isBareName, hquote, hstart]

theorem isAltered_digits {cs : List Char} (hne : cs ≠ []) (h : ∀ c ∈ cs, Text.isDigit c = true) :
    isAltered (String.ofList cs) = isLooseNumeral cs := by
  obtain ⟨c, cs, rfl⟩ := List.exists_cons_of_ne_nil hne
  rw [isAltered, String.toList_ofList, isBareName_of_isDigit (h c List.mem_cons_self), Bool.false_and, Bool.or_false]

/-- A number that can be written is not altered. -/
theorem isAltered_toString {n : ℕ} (h : Text.isWritable n = true) : isAltered (toString (n : ℤ)) = false := by
  have hlength : (Nat.toDigits 10 n).length ≤ Text.maxDigits := by
    rw [Nat.length_toDigits_le_iff (by decide) (by decide)]
    exact Text.isWritable_iff.1 h
  rw [Text.toString_natCast, isAltered_digits Nat.toDigits_ne_nil (Text.isDigit_of_placeValues (Text.placeValues_toDigits n)),
    ← toDigits_ofDigits_eq_iff (Text.placeValues_toDigits n) Nat.toDigits_ne_nil (by simpa using hlength),
    Text.ofDigits_map_placeValue]

/-! ## Identifiers -/

section Identifiers

variable {c : Char} {w blank : List Char} (hc : isNameStart c = true) (hw : ∀ x ∈ w, isNameChar x = true)
include hc hw

theorem isAltered_identifier {quote : List Char} (hquote : quote = [] ∨ quote = ['\''])
    (hblank : blank = [] ∨ blank = ['\n']) : isAltered (String.ofList (quote ++ c :: (w ++ blank))) = false ↔
      blank = [] ∧ Text.isWordOf Text.numberWords (c :: w) = false := by
  have hapostrophe : c ≠ '\'' := by
    rintro rfl
    exact absurd hc (by decide)
  have hloose : isLooseNumeral (quote ++ c :: (w ++ blank)) = false := by
    simp [isLooseNumeral, Datum.decimalValue?_of_isNameStart hc]
  have hunquoted : unquoted (quote ++ c :: (w ++ blank)) = c :: (w ++ blank) := by
    rcases hquote with rfl | rfl <;> simp [unquoted, hapostrophe]
  have hbare : isBareName (quote ++ c :: (w ++ blank)) = true := by
    rcases hquote with rfl | rfl <;> rcases hblank with rfl | rfl <;> simp_all [isBareName]
  have hlast : (quote ++ c :: (w ++ blank)).getLast? = some '\n' ↔ blank ≠ [] := by
    rcases hblank with rfl | rfl
    · refine iff_of_false (fun hlast => ?_) (by simp)
      rw [List.append_nil, List.getLast?_append_of_ne_nil _ (List.cons_ne_nil c w)] at hlast
      rcases List.mem_cons.1 (List.mem_of_getLast? hlast) with rfl | hmem
      · exact absurd hc (by decide)
      · exact absurd (hw _ hmem) (by decide)
    · rw [← List.cons_append, ← List.append_assoc, List.getLast?_concat]
      simp
  rw [isAltered, String.toList_ofList, hloose, hbare, hunquoted, Bool.false_or, Bool.true_and, Bool.or_eq_false_iff,
    decide_eq_false_iff_not, hlast, not_not]
  refine and_congr_right ?_
  rintro rfl
  rw [List.append_nil]

/-- An identifier names something, unless it is a word for a number. -/
theorem nameOf_identifier {source name : String} :
    nameOf source (.ofWord (String.ofList (c :: w))) = .ok name ↔
      Text.isWordOf Text.numberWords (c :: w) = false ∧ String.ofList (c :: w) = name := by
  cases h : Text.isWordOf Text.numberWords (c :: w) with
  | true =>
    obtain ⟨x, hx⟩ := Datum.exists_ofWord_numberWord hc hw h
    rw [hx]
    simp [nameOf]
  | false =>
    rw [Datum.ofWord_identifier hc hw h]
    simp only [nameOf, Except.ok.injEq, true_and]

theorem nameOf_quoted {source name : String} :
    nameOf source (.quoted (.ofWord (String.ofList (c :: w)))) = .ok name ↔
      Text.isWordOf Text.numberWords (c :: w) = false ∧ String.ofList ('\'' :: c :: w) = name := by
  cases h : Text.isWordOf Text.numberWords (c :: w) with
  | true =>
    obtain ⟨x, hx⟩ := Datum.exists_ofWord_numberWord hc hw h
    rw [hx]
    simp [nameOf]
  | false =>
    have hquote : "'" ++ String.ofList (c :: w) = String.ofList ('\'' :: c :: w) := by
      rw [← String.toList_inj]
      simp
    rw [Datum.ofWord_identifier hc hw h]
    simp only [nameOf, hquote, Except.ok.injEq, true_and]

end Identifiers

/-! ## All names -/

/-- Digits stand for a number, for a double if there are too many of them, or for themselves if one of them has no
place value. -/
theorem ofWord_digits_cases {cs : List Char} (hne : cs ≠ []) (h : ∀ c ∈ cs, Text.isDigit c = true) :
    (∃ n : ℕ, Datum.ofWord (String.ofList cs) = .int n ∧ Text.isWritable n = true ∧
        (Nat.toDigits 10 n = cs ↔ isLooseNumeral cs = false)) ∨
      (∃ x, Datum.ofWord (String.ofList cs) = .float x ∧ isLooseNumeral cs = true) ∨
      (Datum.ofWord (String.ofList cs) = .symbol (String.ofList cs) ∧ isLooseNumeral cs = false) := by
  cases hall : cs.all (fun c => (Text.decimalValue? c).isSome) with
  | true =>
    obtain ⟨ds, hds⟩ := exists_forall₂_of_forall_mem fun c hc =>
      Option.isSome_iff_exists.1 (List.all_eq_true.1 hall c hc)
    by_cases hlength : ds.length ≤ Text.maxDigits
    · refine .inl ⟨_, Datum.ofWord_decimals hds hne hlength, ?_, toDigits_ofDigits_eq_iff hds hne hlength⟩
      have hten : ∀ d ∈ ds, d < 10 := by
        intro d hd
        obtain ⟨c, _, hc⟩ := exists_mem_of_forall₂ hds hd
        exact Text.decimalValue?_lt hc
      rw [Text.isWritable_iff, Int.natAbs_natCast]
      exact Nat.lt_of_lt_of_le (Text.ofDigits_lt hten) (Nat.pow_le_pow_right (by decide) hlength)
    · obtain ⟨x, hx⟩ := Datum.exists_ofWord_decimals hds (by omega)
      have hlong : Text.maxDigits < cs.length := by
        rw [hds.length_eq]
        omega
      exact .inr (.inl ⟨x, hx, by simp [isLooseNumeral, hall, hne, hlong]⟩)
  | false =>
    -- reading a numeral stops at the first digit without place value
    obtain ⟨before, c, rest, ds, rfl, hbefore, hc⟩ := Text.exists_placeless hall
    exact .inr (.inr ⟨Datum.ofWord_digits hbefore hc h, by rw [isLooseNumeral, hall, Bool.and_false, Bool.false_and]⟩)

theorem isDigits_of_isLooseNumeral {name : String} (h : isLooseNumeral name.toList = true) :
    Text.isDigits name = true := by
  simp only [isLooseNumeral, Bool.and_eq_true, List.all_eq_true] at h
  refine Text.isDigits_iff.2 ⟨by simpa using h.1.1, fun c hc => ?_⟩
  obtain ⟨d, hd⟩ := Option.isSome_iff_exists.1 (h.1.2 c hc)
  exact Text.isDigit_of_decimalValue? hd

namespace Renders

variable {name : String} {d : Datum}

/-- What is read in place of a name is not altered. -/
theorem not_isAltered (h : Renders name d) {source m : String} (hname : nameOf source d = .ok m) :
    isAltered m = false := by
  cases h with
  | digits hdigits =>
    obtain ⟨hne, hdigits⟩ := Text.isDigits_iff.1 hdigits
    rw [← String.ofList_toList (s := name)] at hname
    rcases ofWord_digits_cases hne hdigits with ⟨n, hword, hn, -⟩ | ⟨x, hword, -⟩ | ⟨hword, hloose⟩
    · rw [hword] at hname
      cases hname
      exact isAltered_toString hn
    · rw [hword] at hname
      cases hname
    · rw [hword] at hname
      cases hname
      rw [isAltered_digits hne hdigits, hloose]
  | @identifier c w blank hc hw _ =>
    obtain ⟨hword, rfl⟩ := (nameOf_identifier hc hw).1 hname
    simpa using (isAltered_identifier hc hw (.inl rfl) (.inl rfl)).2 ⟨rfl, hword⟩
  | @quoted c w blank hc hw _ =>
    obtain ⟨hword, rfl⟩ := (nameOf_quoted hc hw).1 hname
    simpa using (isAltered_identifier hc hw (.inr rfl) (.inl rfl)).2 ⟨rfl, hword⟩
  | string hdigits hbare =>
    cases hname
    have hloose : isLooseNumeral name.toList ≠ true := fun hloose => by
      simp [isDigits_of_isLooseNumeral hloose] at hdigits
    simp [isAltered, hloose, hbare]

/-- A name that is not altered is what is read. -/
theorem nameOf_eq (h : Renders name d) (hname : isAltered name = false) (source : String) :
    nameOf source d = .ok name := by
  cases h with
  | digits hdigits =>
    obtain ⟨hne, hdigits⟩ := Text.isDigits_iff.1 hdigits
    rw [← String.ofList_toList (s := name)] at hname ⊢
    rw [isAltered_digits hne hdigits] at hname
    rcases ofWord_digits_cases hne hdigits with ⟨n, hword, -, heq⟩ | ⟨x, -, hloose⟩ | ⟨hword, -⟩
    · rw [hword, nameOf, Text.toString_natCast, heq.2 hname]
    · rw [hname] at hloose
      cases hloose
    · rw [hword, nameOf]
  | @identifier c w blank hc hw hblank =>
    obtain ⟨rfl, hword⟩ := (isAltered_identifier hc hw (.inl rfl) hblank).1 hname
    exact (nameOf_identifier hc hw).2 ⟨hword, by rw [List.append_nil]⟩
  | @quoted c w blank hc hw hblank =>
    obtain ⟨rfl, hword⟩ := (isAltered_identifier hc hw (.inr rfl) hblank).1 hname
    exact (nameOf_quoted hc hw).2 ⟨hword, by rw [List.append_nil]⟩
  | string _ _ => rfl

end Renders

/-- A name is read back exactly if it is not altered. -/
theorem readsBack_iff {name : String} : ReadsBack name ↔ isAltered name = false := by
  obtain ⟨d, hreads, hrenders⟩ := exists_renders name
  constructor
  · intro h
    obtain ⟨d', hreads', hname⟩ := h.readsAs
    obtain rfl : d = d' := hreads.unique hreads'
    exact hrenders.not_isAltered (hname "")
  · exact fun h => ⟨d, readAll_of_readsAs hreads, hrenders.nameOf_eq h⟩

/-! ## Written rows -/

/-- Only names that are not altered are read from the datum. -/
def Steady (d : Datum) : Prop :=
  ∀ source n, nameOf source d = .ok n → isAltered n = false

theorem steady_of_readsAs {name : String} {d : Datum} (h : ReadsAs (writtenName name).toList [d]) : Steady d := by
  obtain ⟨d', hreads, hrenders⟩ := exists_renders name
  obtain rfl : d = d' := h.unique hreads
  exact fun _ _ => hrenders.not_isAltered

theorem mem_writtenColumns {row : Row String String} {column : String} (h : column ∈ writtenColumns row) :
    (∃ name, column = writtenName name) ∨ ∃ p ∈ row.points, column = toString p := by
  cases row <;> simp only [writtenColumns, Row.points, List.mem_cons, List.not_mem_nil, or_false] at h ⊢ <;> grind

theorem exists_steady_of_mem_writtenColumns {row : Row String String} (hrow : Writable row) {column : String}
    (h : column ∈ writtenColumns row) : ∃ d, ReadsAs column.toList [d] ∧ Steady d := by
  rcases mem_writtenColumns h with ⟨name, rfl⟩ | ⟨p, hp, rfl⟩
  · obtain ⟨d, hreads, -⟩ := exists_renders name
    exact ⟨d, hreads, steady_of_readsAs hreads⟩
  · obtain ⟨h0, hwritable⟩ := hrow p hp
    refine ⟨.int p, readsAs_toString h0 hwritable, fun source n hn => ?_⟩
    cases hn
    rw [← Int.toNat_of_nonneg h0] at hwritable ⊢
    exact isAltered_toString hwritable

/-- A written row stands for a form with steady columns. -/
theorem exists_steady_form {row : Row String String} (hrow : Writable row) : ∃ form,
    ReadsAs (FactSet.rowText (relationOf row) (writtenColumns row)).toList [form] ∧
      ∃ head columns, form = .list (head :: columns) ∧ ∀ d ∈ columns, Steady d := by
  obtain ⟨ds, hds⟩ := exists_forall₂_of_forall_mem fun _ => exists_steady_of_mem_writtenColumns hrow
  refine ⟨_, readsAs_rowText (relationOf row) (hds.imp fun _ _ h => h.1), _, ds, rfl, fun d hd => ?_⟩
  obtain ⟨_, _, _, hsteady⟩ := exists_mem_of_forall₂ hds hd
  exact hsteady

/-! ## Written facts -/

namespace FactSet

variable {fs fs' : FactSet}

/-- All names that the facts use. -/
def names (fs : FactSet) : List String :=
  fs.function.toList ++ (fs.regionNames ++ fs.loanNames)

theorem Dense.mem_names (h : fs.Dense) {n : String} : n ∈ fs.names ↔
    fs.function = some n ∨ ∃ row ∈ fs.spelled, n ∈ row.regions ∨ n ∈ row.loans := by
  simp only [names, List.mem_append, Option.mem_toList, ← h.mem_regionNames_of_spelled,
    ← h.mem_loanNames_of_spelled, List.mem_flatMap, and_or_left, exists_or]

/-- What is read in place of a function's name. -/
theorem Heads.function_of_mapM {function function' : Option String} {ds : List Datum} (h : Heads function ds)
    {source : String} (hread : ds.head?.mapM (nameOf source) = .ok function') :
    (function = some "" → function' = none) ∧ ∀ n, function' = some n → isAltered n = false := by
  cases h with
  | unnamed | empty =>
    cases hread
    exact ⟨fun _ => rfl, nofun⟩
  | named hne hd =>
    refine ⟨fun hempty => absurd (Option.some.inj hempty) hne, ?_⟩
    rintro n rfl
    obtain ⟨m, hm, heq⟩ := map_eq_ok.1 hread
    cases heq
    exact steady_of_readsAs hd source n hm

/-- What is read from written facts has no altered names, and no function with an empty name. -/
theorem isAltered_of_parse_write (hwritable : ∀ row ∈ fs.spelled, Writable row) {source : String}
    (h : parse fs.write source = .ok [fs']) :
    fs'.Dense ∧ (fs.function = some "" → fs'.function = none) ∧ ∀ n ∈ fs'.names, isAltered n = false := by
  have hrows : ∀ text ∈ fs.rows, ∃ form, ReadsAs text.toList [form] ∧
      ∃ head columns, form = .list (head :: columns) ∧ ∀ d ∈ columns, Steady d := by
    intro text htext
    rw [rows_eq] at htext
    obtain ⟨row, hrow, rfl⟩ := List.mem_map.1 htext
    exact exists_steady_form (hwritable row hrow)
  obtain ⟨forms, hforms⟩ := exists_forall₂_of_forall_mem hrows
  have hsteady : ∀ form ∈ forms, ∃ head columns, form = .list (head :: columns) ∧ ∀ d ∈ columns, Steady d := by
    intro form hform
    obtain ⟨_, _, _, hsteady⟩ := exists_mem_of_forall₂ hforms hform
    exact hsteady
  have hlists : ∀ form ∈ forms, ∃ items, form = .list items := by
    intro form hform
    obtain ⟨head, columns, heq, _⟩ := hsteady form hform
    exact ⟨_, heq⟩
  obtain ⟨ds, hheads, hparse⟩ := exists_parse_write_iff (hforms.imp fun _ _ h => h.1) hlists
  obtain ⟨function, _, hfunction, hread, heq⟩ := (hparse source _).1 h
  cases heq
  obtain ⟨rows, hrows, rfl⟩ := readRelations_eq_ok.1 hread
  have hdense := dense_ofRows function rows
  obtain ⟨hempty, hname⟩ := hheads.function_of_mapM hfunction
  rw [← function_ofRows function rows] at hempty hname
  refine ⟨hdense, hempty, fun n hn => ?_⟩
  rcases hdense.mem_names.1 hn with hn | ⟨row, hrow, hn⟩
  · exact hname n hn
  · obtain ⟨form, hform, hrow⟩ := (mem_rows_of_forall₂ hrows).1 ((mem_spelled_ofRows function rows).1 hrow)
    obtain ⟨head, columns, rfl, hcolumns⟩ := hsteady form hform
    obtain ⟨d, hd, hname⟩ := (columns_of_formRow hrow).1 n hn
    exact hcolumns d hd _ n hname

/-- Written facts are read back, if none of their names is altered. -/
theorem parse_write_of_names (hdense : fs.Dense) (hwritable : ∀ row ∈ fs.spelled, Writable row)
    (hempty : fs.function ≠ some "") (hnames : ∀ n ∈ fs.names, isAltered n = false) (source : String) :
    parse fs.write source = .ok [ofRows fs.function fs.spelled] := by
  have hreads : ∀ n ∈ fs.names, ReadsBack n := fun n hn => readsBack_iff.2 (hnames n hn)
  have hrows : List.Forall₂ Restores fs.rows fs.spelled := by
    rw [rows_eq, List.forall₂_map_left_iff, List.forall₂_same]
    intro row hrow
    exact restores_rowText (fun n hn => hreads n (hdense.mem_names.2 (.inr ⟨row, hrow, .inl hn⟩)))
      (fun n hn => hreads n (hdense.mem_names.2 (.inr ⟨row, hrow, .inr hn⟩))) (hwritable row hrow)
  exact parse_write_eq hempty (fun n hn => hreads n (hdense.mem_names.2 (.inl hn))) hrows source

end FactSet

/-- Facts that were read, written and read again are about the same function and have the same rows under their names,
exactly if none of these names is altered and the function's name is not empty. -/
theorem parse_write_keeps_names_iff {text source : String} {sets : List FactSet} {fs : FactSet}
    (hparse : parse text source = .ok sets) (hfs : fs ∈ sets) (source' : String) :
    (∃ fs', parse fs.write source' = .ok [fs'] ∧ fs'.function = fs.function ∧
        ∀ row, row ∈ fs'.spelled ↔ row ∈ fs.spelled) ↔
      fs.function ≠ some "" ∧ ∀ n ∈ fs.names, isAltered n = false := by
  obtain ⟨function, rows, heq, hrows⟩ := exists_rows_of_parse hparse hfs
  have hdense : fs.Dense := heq ▸ FactSet.dense_ofRows function rows
  have hwritable : ∀ row ∈ fs.spelled, Writable row := by
    intro row hrow
    rw [← heq, FactSet.mem_spelled_ofRows] at hrow
    exact hrows row hrow
  constructor
  · -- a name that was altered could not be among those that are read
    rintro ⟨fs', hread, hfunction, hspelled⟩
    obtain ⟨hdense', hempty, hnames⟩ := FactSet.isAltered_of_parse_write hwritable hread
    refine ⟨fun h => ?_, fun n hn => hnames n ?_⟩
    · rw [hempty h, h] at hfunction
      cases hfunction
    · rw [hdense'.mem_names, hfunction]
      simpa only [hspelled] using hdense.mem_names.1 hn
  · rintro ⟨hempty, hnames⟩
    exact ⟨_, FactSet.parse_write_of_names hdense hwritable hempty hnames source', FactSet.function_ofRows ..,
      fun row => FactSet.mem_spelled_ofRows ..⟩

/-- An empty loan, digits without place value and a line break that is not behind an identifier survive. -/
theorem parse_write_keeps_names_iff_strings :
    ∃ fs, parse "(facts f (killed \"\" 0) (killed \"70\" 1) (killed \"²\" 2) (killed \"a-\n\" 3))" "old" = .ok [fs] ∧
      fs.names = ["f", "", "70", "²", "a-\n"] ∧
      ∃ fs', parse fs.write "new" = .ok [fs'] ∧ fs'.function = some "f" ∧
        ∀ row, row ∈ fs'.spelled ↔ row ∈ fs.spelled := by
  have hparse : parse "(facts f (killed \"\" 0) (killed \"70\" 1) (killed \"²\" 2) (killed \"a-\n\" 3))" "old" =
      .ok [FactSet.ofRows (some "f") [.kill "" 0, .kill "70" 1, .kill "²" 2, .kill "a-\n" 3]] :=
    eq_ok_of_toOption (by decide +kernel)
  have hnames : (FactSet.ofRows (some "f") [.kill "" 0, .kill "70" 1, .kill "²" 2, .kill "a-\n" 3]).names =
      ["f", "", "70", "²", "a-\n"] := by
    decide +kernel
  have hkept : ["f", "", "70", "²", "a-\n"].all (!isAltered ·) = true := by decide +kernel
  refine ⟨_, hparse, hnames, (parse_write_keeps_names_iff hparse List.mem_cons_self "new").2
    ⟨by decide, fun n hn => ?_⟩⟩
  rw [hnames] at hn
  simpa using List.all_eq_true.1 hkept n hn

/-- Two loans become one, and a function loses its name. The text of other facts is not even read. -/
theorem parse_write_loses_names :
    (∃ fs fs', parse "(facts \"\" (killed \"007\" 0) (killed \"7\" 1))" "old" = .ok [fs] ∧
      fs.function = some "" ∧ fs.loanNames = ["007", "7"] ∧
      parse fs.write "new" = .ok [fs'] ∧ fs'.function = none ∧ fs'.loanNames = ["7"]) ∧
    ∃ fs, parse "(facts (killed \"inf\" 0))" "old" = .ok [fs] ∧ fs.loanNames = ["inf"] ∧
      ∀ sets, parse fs.write "new" ≠ .ok sets := by
  refine ⟨⟨FactSet.ofRows (some "") [.kill "007" 0, .kill "7" 1], FactSet.ofRows none [.kill "7" 0, .kill "7" 1],
    eq_ok_of_toOption (by decide +kernel), by decide +kernel, by decide +kernel,
    eq_ok_of_toOption (by decide +kernel), by decide +kernel, by decide +kernel⟩,
    FactSet.ofRows none [.kill "inf" 0], eq_ok_of_toOption (by decide +kernel), by decide +kernel, ?_⟩
  intro sets hread
  have hnone : (parse (FactSet.ofRows none [.kill "inf" 0]).write "new").toOption = none := by
    decide +kernel
  rw [hread] at hnone
  cases hnone

end LoanCheck.Facts

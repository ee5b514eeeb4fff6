import LoanCheck.Locator
import LoanCheck.Proofs.Text.DigitRuns
import LoanCheck.Proofs.Text.Joining

/-!
# What a text locates

A text has the form of a locator if it is a file with a name and maybe one more piece, joined by `#`, or a file with
one or two more pieces, joined by `:` (`Outlined`). It has such a form in at most one way (`Outlined.unique`), and the
rest of reading it is reading the numbers in those pieces (`Outlined.parse_eq`).

`Intended` says what should come of a text : a locator if all those pieces are numerals, and otherwise a fault that
names the text. There is one such outcome (`Intended.unique`), and it is what comes of the text, but for one class of
texts (`parse_eq_iff_intended`) : where a number is expected, there are digits that cannot be read (`Text.IsUnread`).
-/

namespace LoanCheck.Text

/-- The text is a numeral of the number : digits with place values, of any script, and nothing else. -/
def IsNumeral (s : String) (i : Int) : Prop :=
  s ≠ "" ∧ ∃ ds, PlaceValues s.toList ds ∧ i = ofDigits ds

/-- Digits that cannot be read as a number : one of them has no place value, or there are too many. -/
def IsUnread (s : String) : Prop :=
  isDigits s = true ∧ ((∃ c ∈ s.toList, decimalValue? c = none) ∨ maxDigits < s.length)

theorem IsNumeral.isDigits {s : String} {i : Int} (h : IsNumeral s i) : isDigits s = true := by
  obtain ⟨hne, ds, hds, -⟩ := h
  exact isDigits_iff.2 ⟨by simpa using hne, isDigit_of_placeValues hds⟩

theorem IsNumeral.unique {s : String} {i j : Int} (hi : IsNumeral s i) (hj : IsNumeral s j) : i = j := by
  obtain ⟨-, ds, hds, rfl⟩ := hi
  obtain ⟨-, ds', hds', rfl⟩ := hj
  have hunique : Relator.RightUnique fun c d => decimalValue? c = some d :=
    fun _ _ _ hd hd' => Option.some.inj (hd.symm.trans hd')
  rw [List.right_unique_forall₂' hunique hds hds']

end LoanCheck.Text

namespace LoanCheck.Locator

open Text Results

/-! ## Outlines -/

/-- The text is joined of a file, maybe a name, and pieces where numbers should be. -/
inductive Outlined : String → String → Option String → List String → Prop
  | symbol {file name : String} {numbers : List String} : file ≠ "" → name ≠ "" → numbers.length ≤ 1 →
      (∀ piece ∈ file :: name :: numbers, '#' ∉ piece.toList) →
      Outlined ("#".intercalate (file :: name :: numbers)) file (some name) numbers
  | absolute {file : String} {numbers : List String} : file ≠ "" → numbers.length = 1 ∨ numbers.length = 2 →
      (∀ piece ∈ file :: numbers, '#' ∉ piece.toList ∧ ':' ∉ piece.toList) →
      Outlined (":".intercalate (file :: numbers)) file none numbers

/-- The locator with a file, maybe a name, and numbers : the index of the name, or a line and maybe a column. -/
def ofNumbers (file : String) : Option String → List Int → Locator
  | some name, numbers => { file, name := some name, index := numbers.headD 0 }
  | none, numbers => { file, line := numbers[0]?, column := numbers[1]? }

namespace Outlined

variable {text file file' : String} {name name' : Option String} {numbers numbers' : List String}

/-- How such a text is cut. -/
theorem split_eq (h : Outlined text file name numbers) :
    (∃ n, name = some n ∧ split '#' text = file :: n :: numbers) ∨
      name = none ∧ split '#' text = [text] ∧ split ':' text = file :: numbers := by
  cases h with
  | symbol _ _ _ hfree => exact .inl ⟨_, rfl, split_intercalate rfl (by simp) hfree⟩
  | absolute _ _ hfree =>
    have hsharp : '#' ∉ (":".intercalate (file :: numbers)).toList := fun hmem =>
      forall_mem_intercalate (P := (· ≠ '#')) (c := ':') rfl (by decide)
        (fun piece hpiece d hd heq => (hfree piece hpiece).1 (heq ▸ hd)) '#' hmem rfl
    have hjoint : "#".toList = ['#'] := rfl
    refine .inr ⟨rfl, ?_, split_intercalate rfl (by simp) fun piece hpiece => (hfree piece hpiece).2⟩
    exact (split_eq_iff hjoint).2 ⟨by simp, by simp, List.forall_mem_singleton.2 hsharp⟩

theorem unique (h : Outlined text file name numbers) (h' : Outlined text file' name' numbers') :
    file = file' ∧ name = name' ∧ numbers = numbers' := by
  obtain ⟨n, rfl, hsplit⟩ | ⟨rfl, hsharp, hsplit⟩ := h.split_eq <;>
    obtain ⟨n', rfl, hsplit'⟩ | ⟨rfl, hsharp', hsplit'⟩ := h'.split_eq
  · rw [hsplit] at hsplit'
    cases hsplit'
    exact ⟨rfl, rfl, rfl⟩
  · rw [hsplit] at hsharp'
    cases hsharp'
  · rw [hsharp] at hsplit'
    cases hsplit'
  · rw [hsplit] at hsplit'
    cases hsplit'
    exact ⟨rfl, rfl, rfl⟩

/-- A text with the form of a locator is read by reading its numbers. -/
theorem parse_eq (h : Outlined text file name numbers) :
    parse text = ofNumbers file name <$> numbers.mapM (numberIn text) := by
  have hsplit := h.split_eq
  cases h with
  | symbol hfile hname hlength _ =>
    obtain ⟨n, hn, hsharp⟩ | ⟨hn, -⟩ := hsplit
    · cases hn
      unfold parse
      rw [hsharp]
      rcases numbers with _ | ⟨d, _ | ⟨e, numbers⟩⟩
      · simp [hfile, hname, ofNumbers]
      · simp [hfile, hname, ofNumbers]
      · simp at hlength
    · cases hn
  | absolute hfile hlength _ =>
    obtain ⟨n, hn, -⟩ | ⟨-, hsharp, hcolon⟩ := hsplit
    · cases hn
    · unfold parse
      rw [hsharp, hcolon]
      rcases numbers with _ | ⟨d, _ | ⟨e, _ | ⟨e', numbers⟩⟩⟩
      · simp at hlength
      · simp [hfile, ofNumbers]
      · simp [hfile, ofNumbers]
      · simp at hlength

/-! What the pieces of a text say about its form. -/

theorem of_split_sharp {n : String} (hsplit : split '#' text = file :: n :: numbers) (hfile : file ≠ "")
    (hname : n ≠ "") (hlength : numbers.length ≤ 1) : Outlined text file (some n) numbers := by
  have hjoint : "#".toList = ['#'] := rfl
  obtain ⟨-, rfl, hfree⟩ := (split_eq_iff hjoint).1 hsplit
  exact .symbol hfile hname hlength hfree

theorem of_split_colon {piece : String} (hsharp : split '#' text = [piece]) (hsplit : split ':' text = file :: numbers)
    (hfile : file ≠ "") (hlength : numbers.length = 1 ∨ numbers.length = 2) :
    Outlined text file none numbers := by
  have hjoint : "#".toList = ['#'] := rfl
  have hjoint' : ":".toList = [':'] := rfl
  obtain ⟨-, htext, hfree⟩ := (split_eq_iff hjoint).1 hsharp
  obtain ⟨-, rfl, hfree'⟩ := (split_eq_iff hjoint').1 hsplit
  have hwhole : '#' ∉ (":".intercalate (file :: numbers)).toList := by
    rw [← htext, String.intercalate_singleton]
    exact hfree piece List.mem_cons_self
  refine .absolute hfile hlength fun p hp => ⟨fun hmem => hwhole ?_, hfree' p hp⟩
  -- what is in a piece is in the whole
  rw [toList_intercalate hjoint']
  rcases List.mem_cons.1 hp with rfl | hp
  · exact List.mem_append_left _ hmem
  · refine List.mem_append_right _ (List.mem_flatMap.2 ⟨p.toList, List.mem_map_of_mem hp, ?_⟩)
    exact List.mem_cons_of_mem _ hmem

end Outlined

/-- A text without such a form is at fault as a whole. -/
theorem exists_outlined_or_parse_eq (text : String) : (∃ file name numbers, Outlined text file name numbers) ∨
    parse text = .error (.format text) := by
  unfold parse
  rcases hsharp : split '#' text with _ | ⟨file, _ | ⟨name, _ | ⟨index, _ | ⟨_, _⟩⟩⟩⟩
  · exact .inr rfl
  · rcases hcolon : split ':' text with _ | ⟨file, _ | ⟨line, _ | ⟨column, _ | ⟨_, _⟩⟩⟩⟩
    · exact .inr rfl
    · exact .inr rfl
    · by_cases hfile : file = ""
      · exact .inr (if_pos (by simpa using hfile))
      · exact .inl ⟨_, _, _, .of_split_colon hsharp hcolon hfile (.inl rfl)⟩
    · by_cases hfile : file = ""
      · exact .inr (if_pos (by simpa using hfile))
      · exact .inl ⟨_, _, _, .of_split_colon hsharp hcolon hfile (.inr rfl)⟩
    · exact .inr rfl
  · by_cases hempty : file = "" ∨ name = ""
    · exact .inr (if_pos (by simpa using hempty))
    · rw [not_or] at hempty
      exact .inl ⟨_, _, _, .of_split_sharp hsharp hempty.1 hempty.2 (by simp)⟩
  · by_cases hempty : file = "" ∨ name = ""
    · exact .inr (if_pos (by simpa using hempty))
    · rw [not_or] at hempty
      exact .inl ⟨_, _, _, .of_split_sharp hsharp hempty.1 hempty.2 (by simp)⟩
  · exact .inr rfl

/-! ## Numbers -/

/-- The number in a piece : that of a numeral, or a fault of one kind for digits and of another for anything else. -/
theorem numberIn_cases (text part : String) :
    (∃ i, IsNumeral part i ∧ ¬IsUnread part ∧ numberIn text part = .ok i) ∨
      (isDigits part = false ∧ numberIn text part = .error (.number text)) ∨
      (IsUnread part ∧ ∃ fault, numberIn text part = .error (.numeral fault)) := by
  cases hdigits : isDigits part with
  | false => exact .inr (.inl ⟨rfl, by simp [numberIn, hdigits]⟩)
  | true =>
    obtain ⟨hne, hall⟩ := isDigits_iff.1 hdigits
    have hnumber : numberIn text part = (integer (String.ofList part.toList)).mapError .numeral := by
      rw [numberIn, if_pos hdigits, String.ofList_toList]
    rw [hnumber]
    cases hplace : part.toList.all fun c => (decimalValue? c).isSome with
    | true =>
      have hsome := List.all_eq_true.1 hplace
      obtain ⟨ds, hds⟩ := exists_forall₂_of_forall_mem fun c hc => Option.isSome_iff_exists.1 (hsome c hc)
      have hlength : part.length = ds.length := by rw [← hds.length_eq, String.length_toList]
      rw [integer_of_placeValues hds hne]
      by_cases hlong : maxDigits < ds.length
      · rw [if_pos hlong]
        exact .inr (.inr ⟨⟨hdigits, .inr (by omega)⟩, _, rfl⟩)
      · rw [if_neg hlong]
        refine .inl ⟨_, ⟨by simpa using hne, ds, hds, rfl⟩, ?_, rfl⟩
        rintro ⟨-, ⟨c, hc, hnone⟩ | hlong'⟩
        · have := hsome c hc
          simp [hnone] at this
        · omega
    | false =>
      obtain ⟨before, c, rest, ds, hpart, hbefore, hc⟩ := exists_placeless hplace
      obtain ⟨fault, hfault⟩ := exists_integer_of_placeless hbefore hc (hpart ▸ hall)
      rw [hpart, hfault]
      exact .inr (.inr ⟨⟨hdigits, .inl ⟨c, by rw [hpart]; simp, hc⟩⟩, _, rfl⟩)

section

variable {text part : String}

theorem numberIn_eq_ok_iff {i : Int} : numberIn text part = .ok i ↔ IsNumeral part i ∧ ¬IsUnread part := by
  rcases numberIn_cases text part with ⟨j, hj, hread, hok⟩ | ⟨hdigits, herror⟩ | ⟨hunread, fault, herror⟩
  · rw [hok, Except.ok.injEq]
    exact ⟨fun h => ⟨h ▸ hj, hread⟩, fun h => hj.unique h.1⟩
  · rw [herror]
    refine iff_of_false nofun fun h => ?_
    rw [h.1.isDigits] at hdigits
    cases hdigits
  · rw [herror]
    exact iff_of_false nofun fun h => h.2 hunread

theorem exists_numberIn_eq_numeral_iff :
    (∃ fault, numberIn text part = .error (.numeral fault)) ↔ IsUnread part := by
  rcases numberIn_cases text part with ⟨j, -, hread, hok⟩ | ⟨hdigits, herror⟩ | ⟨hunread, herror⟩
  · rw [hok]
    exact iff_of_false nofun hread
  · rw [herror]
    refine iff_of_false nofun fun h => ?_
    rw [h.1] at hdigits
    cases hdigits
  · exact iff_of_true herror hunread

/-- Every other fault names the text, and there is no numeral. -/
theorem of_numberIn_eq_error {fault : LocatorFault} (h : numberIn text part = .error fault)
    (hread : ¬IsUnread part) : fault = .number text ∧ ∀ i, ¬IsNumeral part i := by
  rcases numberIn_cases text part with ⟨j, -, -, hok⟩ | ⟨hdigits, herror⟩ | ⟨hunread, -⟩
  · rw [hok] at h
    cases h
  · rw [herror] at h
    cases h
    refine ⟨rfl, fun i hi => ?_⟩
    rw [hi.isDigits] at hdigits
    cases hdigits
  · exact absurd hunread hread

end

/-! ## Outcomes -/

/-- What should come of a text : a locator if it has the form of one and numerals for its numbers, and otherwise a fault
that tells a number that is none from a form that is none. -/
inductive Intended (text : String) : Except LocatorFault Locator → Prop
  | locator {file : String} {name : Option String} {numbers : List String} {values : List Int} :
      Outlined text file name numbers → List.Forall₂ IsNumeral numbers values →
      Intended text (.ok (ofNumbers file name values))
  | number {file : String} {name : Option String} {numbers : List String} {part : String} :
      Outlined text file name numbers → part ∈ numbers → (∀ i, ¬IsNumeral part i) →
      Intended text (.error (.number text))
  | format : (∀ file name numbers, ¬Outlined text file name numbers) → Intended text (.error (.format text))

/-- The first piece that is no number is a run of digits all the same. -/
def Misread (text : String) : Prop :=
  ∃ file name before part after, Outlined text file name (before ++ part :: after) ∧
    (∀ p ∈ before, ∃ i, IsNumeral p i ∧ ¬IsUnread p) ∧ IsUnread part

variable {text : String}

theorem Intended.unique {r r' : Except LocatorFault Locator} (h : Intended text r) (h' : Intended text r') :
    r = r' := by
  cases h with
  | locator hform hvalues =>
    cases h' with
    | locator hform' hvalues' =>
      obtain ⟨rfl, rfl, rfl⟩ := hform.unique hform'
      have hunique : Relator.RightUnique IsNumeral := fun _ _ _ hi hj => hi.unique hj
      rw [List.right_unique_forall₂' hunique hvalues hvalues']
    | number hform' hpart hnone =>
      obtain ⟨rfl, rfl, rfl⟩ := hform.unique hform'
      obtain ⟨i, -, hi⟩ := exists_mem_of_forall₂ hvalues.flip hpart
      exact absurd hi (hnone i)
    | format hnone => exact absurd hform (hnone _ _ _)
  | number hform hpart hnone =>
    cases h' with
    | locator hform' hvalues =>
      obtain ⟨rfl, rfl, rfl⟩ := hform.unique hform'
      obtain ⟨i, -, hi⟩ := exists_mem_of_forall₂ hvalues.flip hpart
      exact absurd hi (hnone i)
    | number _ _ _ => rfl
    | format hnone => exact absurd hform (hnone _ _ _)
  | format hnone =>
    cases h' with
    | locator hform _ | number hform _ _ => exact absurd hform (hnone _ _ _)
    | format _ => rfl

theorem exists_parse_eq_numeral_iff : (∃ fault, parse text = .error (.numeral fault)) ↔ Misread text := by
  constructor
  · rintro ⟨fault, hfault⟩
    obtain ⟨file, name, numbers, hform⟩ | hformat := exists_outlined_or_parse_eq text
    · rw [hform.parse_eq, map_eq_error, mapM_eq_error] at hfault
      obtain ⟨before, part, after, rfl, hbefore, hpart⟩ := hfault
      refine ⟨file, name, before, part, after, hform, fun p hp => ?_, exists_numberIn_eq_numeral_iff.1 ⟨fault, hpart⟩⟩
      simpa only [numberIn_eq_ok_iff] using hbefore p hp
    · rw [hformat] at hfault
      cases hfault
  · rintro ⟨file, name, before, part, after, hform, hbefore, hunread⟩
    obtain ⟨fault, hfault⟩ := exists_numberIn_eq_numeral_iff.2 hunread
    refine ⟨fault, ?_⟩
    rw [hform.parse_eq, map_eq_error, mapM_eq_error]
    refine ⟨before, part, after, rfl, fun p hp => ?_, hfault⟩
    simpa only [numberIn_eq_ok_iff] using hbefore p hp

theorem intended_parse (h : ¬Misread text) : Intended text (parse text) := by
  obtain ⟨file, name, numbers, hform⟩ | hformat := exists_outlined_or_parse_eq text
  · cases hparse : parse text with
    | ok l =>
      rw [hform.parse_eq, map_eq_ok] at hparse
      obtain ⟨values, hvalues, rfl⟩ := hparse
      exact .locator hform ((mapM_eq_ok.1 hvalues).imp fun _ _ hi => (numberIn_eq_ok_iff.1 hi).1)
    | error fault =>
      rw [hform.parse_eq, map_eq_error, mapM_eq_error] at hparse
      obtain ⟨before, part, after, rfl, hbefore, hpart⟩ := hparse
      have hread : ¬IsUnread part := fun hunread => h ⟨file, name, before, part, after, hform,
        fun p hp => by simpa only [numberIn_eq_ok_iff] using hbefore p hp, hunread⟩
      obtain ⟨rfl, hnone⟩ := of_numberIn_eq_error hpart hread
      exact .number hform (by simp) hnone
  · -- with a form there would be another fault, or none
    rw [hformat]
    refine .format fun file name numbers hform => ?_
    rw [hform.parse_eq, map_eq_error, mapM_eq_error] at hformat
    obtain ⟨_, part, _, -, -, hpart⟩ := hformat
    rcases numberIn_cases text part with ⟨i, -, -, hok⟩ | ⟨-, herror⟩ | ⟨-, _, herror⟩
    · rw [hok] at hpart
      cases hpart
    · rw [herror] at hpart
      cases hpart
    · rw [herror] at hpart
      cases hpart

/-- What comes of a text is what should, unless digits that cannot be read stand where a number should be. Then it is a
fault of its own. -/
theorem parse_eq_iff_intended (text : String) :
    ((∀ r, parse text = r ↔ Intended text r) ↔ ¬Misread text) ∧
      (Misread text ↔ ∃ fault, parse text = .error (.numeral fault)) := by
  refine ⟨⟨fun h hmisread => ?_, fun h r => ?_⟩, exists_parse_eq_numeral_iff.symm⟩
  · obtain ⟨fault, hfault⟩ := exists_parse_eq_numeral_iff.2 hmisread
    cases (h _).1 hfault
  · exact ⟨fun hr => hr ▸ intended_parse h, fun hr => (intended_parse h).unique hr⟩

/-- A superscript is no numeral, but the fault is not that of a number. -/
theorem parse_superscript : Intended "a.c:²" (.error (.number "a.c:²")) ∧
    parse "a.c:²" = .error (.numeral (.malformed "²")) := by
  have hsharp : split '#' "a.c:²" = ["a.c:²"] := rfl
  have hform : Outlined "a.c:²" "a.c" none ["²"] := .of_split_colon hsharp rfl (by decide) (.inl rfl)
  refine ⟨.number hform List.mem_cons_self ?_, rfl⟩
  rintro i ⟨-, ds, hds, -⟩
  have hall : "²".toList.all (fun c => (decimalValue? c).isSome) = false := by decide
  rw [all_isSome_of_placeValues hds] at hall
  cases hall

end LoanCheck.Locator

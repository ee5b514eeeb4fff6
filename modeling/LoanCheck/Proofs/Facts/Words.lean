import LoanCheck.Proofs.Facts.Names
import LoanCheck.Proofs.Text.DigitRuns

/-!
# What bare words stand for

A name that is written bare is read as a word, and a word may stand for a number.

Digits of any script stand for an integer (`ofWord_decimals`), or for a double if there are too many of them
(`exists_ofWord_decimals`). Digits without place value make no numeral, and stand for a symbol (`ofWord_digits`). So
does an identifier (`ofWord_identifier`), but for the words for infinity and for no number
(`exists_ofWord_numberWord`).
-/

namespace LoanCheck.Text

/-! ## Words for infinity and for no number -/

/-- The words that stand for a double without having a digit. -/
def numberWords : List String := ["inf", "infinity", "nan"]

theorem isWordOf_numberWords (cs : List Char) :
    isWordOf numberWords cs = (isWordOf ["inf", "infinity"] cs || isWordOf ["nan"] cs) := by
  simp [isWordOf, numberWords, Bool.or_assoc]

theorem toLower_of_isDigit {c : Char} (h : isDigit c = true) : c.toLower = c := by
  unfold Char.toLower
  split
  next hupper =>
    have hlow : 0x41 ≤ c.toNat := hupper.1
    have hhigh : c.toNat ≤ 0x5a := hupper.2
    have := toNat_of_isDigit (isDigit_of_ascii (by omega) h)
    omega
  next => rfl

theorem not_isWordOf_of_isDigit {c : Char} (h : isDigit c = true) (cs : List Char) :
    isWordOf numberWords (c :: cs) = false := by
  rw [isWordOf, List.map_cons, toLower_of_isDigit h, ← Bool.not_eq_true, List.contains_iff_mem]
  intro hmem
  have hfirst : numberWords.all (fun word => word.toList.head?.all (!isDigit ·)) = true := by decide
  have := List.all_eq_true.1 hfirst _ hmem
  simp [h] at this

end LoanCheck.Text

namespace LoanCheck.Sexp.Datum

open Text

/-! ## Digits -/

theorem decimal?_of_isDigit {cs : List Char} (hne : cs ≠ []) (h : ∀ c ∈ cs, isDigit c = true) :
    decimal? (String.ofList cs) = unsignedDecimal? false cs := by
  obtain ⟨c, cs, rfl⟩ := List.exists_cons_of_ne_nil hne
  have hword := not_isWordOf_of_isDigit (h c List.mem_cons_self) cs
  rw [isWordOf_numberWords, Bool.or_eq_false_iff] at hword
  rw [(unadorned_of_isDigit h).decimal?_eq, hword.1, hword.2]
  rfl

/-- Digits stand for an integer. -/
theorem ofWord_decimals {cs : List Char} {ds : List Nat} (h : PlaceValues cs ds) (hne : cs ≠ [])
    (hlength : ds.length ≤ maxDigits) : ofWord (String.ofList cs) = .int (ofDigits ds) := by
  rw [ofWord, integer_of_placeValues h hne, if_neg (by omega)]

/-- More digits than a numeral may have stand for a double. -/
theorem exists_ofWord_decimals {cs : List Char} {ds : List Nat} (h : PlaceValues cs ds)
    (hlength : maxDigits < ds.length) : ∃ x, ofWord (String.ofList cs) = .float x := by
  have hds : ds ≠ [] := by
    rintro rfl
    cases hlength
  have hne : cs ≠ [] := by
    rintro rfl
    exact hds (List.forall₂_nil_left_iff.1 h)
  have hdigits := isDigit_of_placeValues h
  rw [ofWord, integer_of_placeValues h hne, if_pos hlength, double?,
    decimal?_of_isDigit hne hdigits, unsignedDecimal?, takeDigits_of_placeValues h]
  simp [hds, takeExponent]

/-- Digits of which one has no place value stand for a symbol. -/
theorem ofWord_digits {cs : List Char} {c : Char} {rest : List Char} {ds : List Nat} (h : PlaceValues cs ds)
    (hc : decimalValue? c = none) (hdigits : ∀ x ∈ cs ++ c :: rest, isDigit x = true) :
    ofWord (String.ofList (cs ++ c :: rest)) = .symbol (String.ofList (cs ++ c :: rest)) := by
  have hdigit : isDigit c = true := hdigits c (by simp)
  have hdouble : double? (String.ofList (cs ++ c :: rest)) = none := by
    have hpoint : c ≠ '.' := ne_of_isDigit hdigit (by decide)
    have hexponent : c ≠ 'e' ∧ c ≠ 'E' :=
      ⟨ne_of_isDigit hdigit (by decide), ne_of_isDigit hdigit (by decide)⟩
    rw [double?, decimal?_of_isDigit (by simp) hdigits, unsignedDecimal?, takeDigits_of_placeless h hc hdigit]
    simp [hpoint, hexponent, takeExponent]
  obtain ⟨fault, hfault⟩ := exists_integer_of_placeless h hc hdigits
  rw [ofWord, hfault]
  simp only [hdouble]

/-! ## Identifiers -/

open Facts

theorem toNat_of_isNameStart {c : Char} (h : isNameStart c = true) : 0x41 ≤ c.toNat ∧ c.toNat < 0x80 := by
  unfold isNameStart Char.isAlpha Char.isUpper Char.isLower at h
  simp only [Bool.or_eq_true, Bool.and_eq_true, decide_eq_true_eq, ge_iff_le, UInt32.le_iff_toNat_le] at h
  unfold Char.toNat
  rcases h with (h | h) | rfl
  · change 65 ≤ c.val.toNat ∧ c.val.toNat ≤ 90 at h
    omega
  · change 97 ≤ c.val.toNat ∧ c.val.toNat ≤ 122 at h
    omega
  · decide

theorem toNat_of_isNameChar {c : Char} (h : isNameChar c = true) : 0x30 ≤ c.toNat ∧ c.toNat < 0x80 := by
  by_cases hdigit : c.isDigit = true
  · have := toNat_of_isDigit hdigit
    omega
  · have hstart : isNameStart c = true := by
      simpa [isNameChar, isNameStart, Char.isAlphanum, hdigit] using h
    have := toNat_of_isNameStart hstart
    omega

theorem isNumeralBlank_of_isNameChar {c : Char} (h : isNameChar c = true) : isNumeralBlank c = false := by
  have hc := toNat_of_isNameChar h
  have hspace : c ≠ ' ' := by
    rintro rfl
    exact absurd h (by decide)
  simp [isNumeralBlank, isAsciiBlank, hspace, wideBlanks, CharSet.contains]
  omega

theorem decimalValue?_of_isNameStart {c : Char} (h : isNameStart c = true) : decimalValue? c = none := by
  have hc := toNat_of_isNameStart h
  have hdigit : c.isDigit ≠ true := by
    intro hdigit
    have := toNat_of_isDigit hdigit
    omega
  rw [decimalValue?, if_pos hc.2, if_neg hdigit]

/-- An identifier has no digits in front. -/
theorem takeDigits_identifier {c : Char} (hc : isNameStart c = true) (w : List Char) :
    takeDigits (c :: w) = none ∨ takeDigits (c :: w) = some ([], c :: w) := by
  by_cases hunderscore : c = '_'
  · exact .inl (if_pos (by rw [hunderscore]; rfl))
  · have htake : takeDigits ([] ++ c :: w) = some ([], c :: w) := by
      refine takeDigits_append .nil fun x hx => ?_
      cases hx
      exact ⟨decimalValue?_of_isNameStart hc, hunderscore⟩
    exact .inr htake

theorem unsignedDecimal?_identifier {c : Char} (hc : isNameStart c = true) (w : List Char) :
    unsignedDecimal? false (c :: w) = none := by
  have hpoint : c ≠ '.' := by
    rintro rfl
    exact absurd hc (by decide)
  unfold unsignedDecimal?
  rcases takeDigits_identifier hc w with htake | htake
  · rw [htake]
    rfl
  · rw [htake]
    simp [hpoint]

variable {c : Char} {w : List Char} (hc : isNameStart c = true) (hw : ∀ x ∈ w, isNameChar x = true)
include hc hw

theorem unadorned_identifier : Unadorned (c :: w) where
  blank x hx := by
    rcases List.mem_cons.1 hx with rfl | hx
    · exact isNumeralBlank_of_isNameChar (isNameChar_of_isNameStart hc)
    · exact isNumeralBlank_of_isNameChar (hw x hx)
  sign := by
    refine takeSign_cons ?_ ?_ w
    · rintro rfl
      exact absurd hc (by decide)
    · rintro rfl
      exact absurd hc (by decide)

theorem integer_identifier : ∃ fault, integer (String.ofList (c :: w)) = .error fault := by
  have hunadorned := unadorned_identifier hc hw
  rcases takeDigits_identifier hc w with htake | htake
  · exact ⟨_, hunadorned.integer_of_none htake⟩
  · rw [hunadorned.integer_eq htake, if_neg (by simp), if_pos (by simp)]
    exact ⟨_, rfl⟩

/-- An identifier stands for a symbol, if it is no word for a number. -/
theorem ofWord_identifier (h : isWordOf numberWords (c :: w) = false) :
    ofWord (String.ofList (c :: w)) = .symbol (String.ofList (c :: w)) := by
  obtain ⟨fault, hfault⟩ := integer_identifier hc hw
  rw [isWordOf_numberWords, Bool.or_eq_false_iff] at h
  rw [ofWord, hfault, double?, (unadorned_identifier hc hw).decimal?_eq, h.1, h.2,
    unsignedDecimal?_identifier hc w]
  rfl

/-- A word for a number stands for a double. -/
theorem exists_ofWord_numberWord (h : isWordOf numberWords (c :: w) = true) :
    ∃ x, ofWord (String.ofList (c :: w)) = .float x := by
  obtain ⟨fault, hfault⟩ := integer_identifier hc hw
  have hdecimal : ∃ x, decimal? (String.ofList (c :: w)) = some x := by
    rw [isWordOf_numberWords, Bool.or_eq_true] at h
    rw [(unadorned_identifier hc hw).decimal?_eq]
    split_ifs with hinfinity hnan
    · exact ⟨_, rfl⟩
    · exact ⟨_, rfl⟩
    · exact absurd h (by simp [hinfinity, hnan])
  obtain ⟨x, hx⟩ := hdecimal
  exact ⟨x.toDouble, by rw [ofWord, hfault, double?, hx]; rfl⟩

end LoanCheck.Sexp.Datum

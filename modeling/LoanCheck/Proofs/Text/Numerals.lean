import LoanCheck.Text.Numeral
import Mathlib.Algebra.Group.Nat.Defs

/-!
# Writing and reading integers

An integer is written with the digits `0` to `9`, behind a minus sign if it is negative. What is written is read as
the same integer (`integer_toString`), unless it has more digits than a numeral may have. No numeral stands for
such an integer (`isWritable_of_integer`).
-/

namespace LoanCheck.Text

/-! ## Digits -/

/-- Place value of one of the digits that integers are written with. -/
def placeValue (c : Char) : Nat := c.toNat - '0'.toNat

theorem toNat_of_isDigit {c : Char} (h : c.isDigit = true) : 0x30 ≤ c.toNat ∧ c.toNat ≤ 0x39 :=
  Char.isDigit_iff_toNat.1 h

theorem decimalValue?_of_isDigit {c : Char} (h : c.isDigit = true) :
    decimalValue? c = some (placeValue c) := by
  have hascii : c.toNat < 0x80 := by
    have := toNat_of_isDigit h
    omega
  rw [decimalValue?, if_pos hascii, if_pos h]
  rfl

/-- A place value is below ten, whatever the script of the digit. -/
theorem decimalValue?_lt {c : Char} {d : Nat} (h : decimalValue? c = some d) : d < 10 := by
  unfold decimalValue? at h
  split at h
  · split at h
    next hdigit =>
      have := toNat_of_isDigit hdigit
      cases h
      omega
    next => cases h
  · obtain ⟨z, hz, rfl⟩ := Option.map_eq_some_iff.1 h
    have := List.find?_some hz
    simp only [Bool.and_eq_true, decide_eq_true_eq] at this
    omega

theorem isNumeralBlank_of_isDigit {c : Char} (h : c.isDigit = true) : isNumeralBlank c = false := by
  have := toNat_of_isDigit h
  have hspace : c ≠ ' ' := by
    rintro rfl
    exact absurd h (by decide)
  simp [isNumeralBlank, isAsciiBlank, hspace, wideBlanks, CharSet.contains]
  omega

/-! ## Runs of digits -/

theorem moreDigits_of_isDigit : ∀ {cs : List Char}, (∀ c ∈ cs, c.isDigit = true) →
    moreDigits cs = some (cs.map placeValue, [])
  | [], _ => rfl
  | c :: cs, h => by
    have hc := h c List.mem_cons_self
    have hne : c ≠ '_' := by
      rintro rfl
      exact absurd hc (by decide)
    rw [moreDigits, decimalValue?_of_isDigit hc,
      moreDigits_of_isDigit fun x hx => h x (List.mem_cons_of_mem _ hx)]
    · rfl
    all_goals simp [hne]

theorem lt_of_moreDigits {cs : List Char} {r : List Nat × List Char} (h : moreDigits cs = some r) :
    ∀ d ∈ r.1, d < 10 := by
  fun_induction moreDigits cs generalizing r with
  | case1 =>
    cases h
    simp
  | case2 => cases h
  | case3 c rest d hd ih =>
    obtain ⟨r, hr, rfl⟩ := Option.map_eq_some_iff.1 h
    exact List.forall_mem_cons.2 ⟨decimalValue?_lt hd, ih hr⟩
  | case4 => cases h
  | case5 c rest _ _ d hd ih =>
    obtain ⟨r, hr, rfl⟩ := Option.map_eq_some_iff.1 h
    exact List.forall_mem_cons.2 ⟨decimalValue?_lt hd, ih hr⟩
  | case6 =>
    cases h
    simp

theorem lt_of_takeDigits {cs : List Char} {r : List Nat × List Char} (h : takeDigits cs = some r) :
    ∀ d ∈ r.1, d < 10 := by
  unfold takeDigits at h
  split at h
  · cases h
  · exact lt_of_moreDigits h

theorem foldl_digits_lt {ds : List Nat} (h : ∀ d ∈ ds, d < 10) (n : Nat) :
    ds.foldl (fun n d => 10 * n + d) n < (n + 1) * 10 ^ ds.length := by
  induction ds generalizing n with
  | nil => simp
  | cons d ds ih =>
    have hd := h d List.mem_cons_self
    calc ds.foldl (fun n d => 10 * n + d) (10 * n + d)
        < (10 * n + d + 1) * 10 ^ ds.length := ih (fun x hx => h x (List.mem_cons_of_mem _ hx)) _
      _ ≤ (10 * (n + 1)) * 10 ^ ds.length := Nat.mul_le_mul_right _ (by omega)
      _ = (n + 1) * 10 ^ (ds.length + 1) := by rw [Nat.pow_succ, Nat.mul_comm 10, Nat.mul_assoc,
        Nat.mul_comm 10]

/-- A number has no more digits than it is written with. -/
theorem ofDigits_lt {ds : List Nat} (h : ∀ d ∈ ds, d < 10) : ofDigits ds < 10 ^ ds.length := by
  have hlt := foldl_digits_lt h 0
  rwa [Nat.zero_add, Nat.one_mul] at hlt

theorem ofDigits_map_placeValue (n : Nat) : ofDigits ((Nat.toDigits 10 n).map placeValue) = n := by
  rw [ofDigits, List.foldl_map]
  exact Nat.ofDigitChars_ten_toDigits

theorem takeDigits_toDigits (n : Nat) :
    takeDigits (Nat.toDigits 10 n) = some ((Nat.toDigits 10 n).map placeValue, []) := by
  have hdigits : ∀ c ∈ Nat.toDigits 10 n, c.isDigit = true :=
    fun c hc => Nat.isDigit_of_mem_toDigits (by decide) (by decide) hc
  rw [takeDigits, if_neg, moreDigits_of_isDigit hdigits]
  intro hhead
  exact absurd (hdigits '_' (List.mem_of_head? hhead)) (by decide)

/-! ## Leading zeros -/

theorem digitChar_placeValue {c : Char} (h : c.isDigit = true) : Nat.digitChar (placeValue c) = c := by
  have hc := toNat_of_isDigit h
  have hzero : '0'.toNat = 0x30 := rfl
  apply Char.toNat_inj.1
  rw [placeValue, Nat.toNat_digitChar_of_lt_ten (by omega)]
  omega

/-- Digits behind a number that is not zero are the digits that follow its own. -/
theorem toDigits_foldl_placeValue {n : Nat} (hn : 0 < n) {cs : List Char} (h : ∀ c ∈ cs, c.isDigit = true) :
    Nat.toDigits 10 ((cs.map placeValue).foldl (fun n d => 10 * n + d) n) = Nat.toDigits 10 n ++ cs := by
  induction cs generalizing n with
  | nil => simp
  | cons c cs ih =>
    have hc := h c List.mem_cons_self
    have hlt := decimalValue?_lt (decimalValue?_of_isDigit hc)
    rw [List.map_cons, List.foldl_cons, ih (by omega) fun x hx => h x (List.mem_cons_of_mem _ hx),
      ← Nat.toDigits_append_toDigits (by decide) hn hlt, Nat.toDigits_of_lt_base hlt, digitChar_placeValue hc]
    simp

/-- Digits are those of the number they stand for, unless they start with a zero and there are more of them. -/
theorem toDigits_ofDigits_iff {cs : List Char} (hne : cs ≠ []) (h : ∀ c ∈ cs, c.isDigit = true) :
    Nat.toDigits 10 (ofDigits (cs.map placeValue)) = cs ↔ (cs.head? = some '0' → cs.length = 1) := by
  obtain ⟨c, cs, rfl⟩ := List.exists_cons_of_ne_nil hne
  have hc := h c List.mem_cons_self
  have hlt := decimalValue?_lt (decimalValue?_of_isDigit hc)
  have hof : ofDigits ((c :: cs).map placeValue) =
      (cs.map placeValue).foldl (fun n d => 10 * n + d) (placeValue c) := by
    rw [ofDigits, List.map_cons, List.foldl_cons, Nat.mul_zero, Nat.zero_add]
  rw [hof]
  by_cases hzero : c = '0'
  · subst hzero
    constructor
    · intro heq _
      -- a number has no more digits than it takes
      cases cs with
      | nil => rfl
      | cons d cs =>
        have hdigits : ∀ x ∈ (d :: cs).map placeValue, x < 10 := by
          intro x hx
          obtain ⟨y, hy, rfl⟩ := List.mem_map.1 hx
          exact decimalValue?_lt (decimalValue?_of_isDigit (h y (List.mem_cons_of_mem _ hy)))
        have hshort := (Nat.length_toDigits_le_iff (b := 10) (by decide) (by simp)).2 (ofDigits_lt hdigits)
        rw [List.length_map] at hshort
        have hlong := congrArg List.length heq
        have hvalue : placeValue '0' = 0 := rfl
        rw [hvalue] at hlong
        simp only [ofDigits, List.length_cons] at hshort hlong
        omega
    · intro hlength
      have hnil : cs = [] := by simpa using hlength rfl
      subst hnil
      rfl
  · have hpos : 0 < placeValue c := by
      have hc' := toNat_of_isDigit hc
      have hne' : c.toNat ≠ '0'.toNat := fun heq => hzero (Char.toNat_inj.1 heq)
      have hzero' : '0'.toNat = 0x30 := rfl
      unfold placeValue
      omega
    rw [toDigits_foldl_placeValue hpos fun x hx => h x (List.mem_cons_of_mem _ hx),
      Nat.toDigits_of_lt_base hlt, digitChar_placeValue hc]
    simp [hzero]

/-! ## Integers -/

theorem isWritable_iff {i : Int} : isWritable i = true ↔ i.natAbs < 10 ^ maxDigits := by
  rw [isWritable, decide_eq_true_iff, Nat.pow_eq]

theorem takeSign_toDigits (n : Nat) :
    takeSign ((Nat.toDigits 10 n).dropWhile isNumeralBlank) = (false, Nat.toDigits 10 n) := by
  have hdigits : ∀ c ∈ Nat.toDigits 10 n, c.isDigit = true :=
    fun c hc => Nat.isDigit_of_mem_toDigits (by decide) (by decide) hc
  cases h : Nat.toDigits 10 n with
  | nil => exact absurd h Nat.toDigits_ne_nil
  | cons c cs =>
    have hc := hdigits c (h ▸ List.mem_cons_self)
    rw [List.dropWhile_cons_of_neg (by simp [isNumeralBlank_of_isDigit hc]), takeSign.eq_def]
    split <;> simp_all

/-- The sign and the digits of a written integer. -/
theorem toList_toString_int (i : Int) :
    (toString i).toList = (if i < 0 then ['-'] else []) ++ Nat.toDigits 10 i.natAbs := by
  rw [Int.toString_eq_repr, Int.repr_eq_if]
  split
  next hi =>
    rw [if_neg (by omega), Nat.toList_repr, List.nil_append]
    congr 1
    omega
  next hi =>
    rw [if_pos (by omega), String.toList_append, Nat.toList_repr]
    congr 2
    omega

theorem takeSign_toString (i : Int) :
    takeSign ((toString i).toList.dropWhile isNumeralBlank) =
      (decide (i < 0), Nat.toDigits 10 i.natAbs) := by
  rw [toList_toString_int]
  split
  next hi => rw [List.singleton_append, List.dropWhile_cons_of_neg (by decide), takeSign, decide_eq_true hi]
  next hi => rw [List.nil_append, takeSign_toDigits, decide_eq_false hi]

/-- Reading a written integer gives the integer. -/
theorem integer_toString {i : Int} (h : isWritable i = true) : integer (toString i) = .ok i := by
  have hlen : ¬ maxDigits < ((Nat.toDigits 10 i.natAbs).map placeValue).length := by
    rw [List.length_map, Nat.not_lt, Nat.length_toDigits_le_iff (by decide) (by decide)]
    exact isWritable_iff.1 h
  have hempty : ((Nat.toDigits 10 i.natAbs).map placeValue).isEmpty = false := by
    simp
  have hsign : (if i < 0 then -(i.natAbs : Int) else i.natAbs) = i := by
    split <;> omega
  unfold integer
  rw [takeSign_toString]
  simp only [takeDigits_toDigits, if_neg hlen, hempty, ofDigits_map_placeValue, List.all_nil]
  simp only [Bool.false_or, Bool.not_true, Bool.false_eq_true, if_false, decide_eq_true_eq]
  rw [hsign]

/-- A numeral stands for an integer that can be written. -/
theorem isWritable_of_integer {s : String} {i : Int} (h : integer s = .ok i) : isWritable i = true := by
  unfold integer at h
  split at h
  split at h
  · cases h
  · rename_i ds after htake
    split at h
    · cases h
    · split at h
      · cases h
      · have hlt : ofDigits ds < 10 ^ maxDigits :=
          Nat.lt_of_lt_of_le (ofDigits_lt (lt_of_takeDigits htake))
            (Nat.pow_le_pow_right (by decide) (by omega))
        cases h
        rw [isWritable_iff]
        split
        · rwa [Int.natAbs_neg, Int.natAbs_natCast]
        · rwa [Int.natAbs_natCast]

end LoanCheck.Text

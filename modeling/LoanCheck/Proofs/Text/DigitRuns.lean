import LoanCheck.Proofs.Lists
import LoanCheck.Proofs.Text.Numerals

/-!
# Runs of digits

Digits of all scripts stand next to each other in a numeral, each with its place value (`PlaceValues`). Blanks and signs
have no part in a text of digits (`Unadorned`). Such a text is a numeral if all its digits have a place value and there
are not too many of them (`integer_of_placeValues`), and is none if a digit has no place value
(`exists_integer_of_placeless`).
-/

namespace LoanCheck.Text

/-! ## Digits of all scripts -/

/-- Sets of characters without a common one. -/
theorem CharSet.not_contains_of_disjoint {s t : CharSet} {c : Char}
    (h : (s.intervals.all fun a => t.intervals.all fun b => a.2 < b.1 || b.2 < a.1) = true)
    (hs : s.contains c = true) : t.contains c = false := by
  simp only [contains, List.any_eq_true, List.all_eq_true, Bool.and_eq_true, decide_eq_true_eq,
    Bool.or_eq_true, List.any_eq_false] at *
  obtain ⟨a, ha, hlow, hhigh⟩ := hs
  intro b hb
  have := h a ha b hb
  omega

/-- The characters with place value beyond ASCII. -/
def wideDecimals : CharSet where
  intervals := decimalZeros.map fun z => (z, z + 9)

theorem contains_wideDecimals {c : Char} (hwide : ¬c.toNat < 0x80) (h : (decimalValue? c).isSome = true) :
    wideDecimals.contains c = true := by
  rw [decimalValue?, if_neg hwide, Option.isSome_map, List.find?_isSome] at h
  simpa [wideDecimals, CharSet.contains] using h

/-- Below the other scripts only the digits of integers count. -/
theorem isDigit_of_ascii {c : Char} (hascii : c.toNat < 0x80) (h : isDigit c = true) : c.isDigit = true := by
  simp only [isDigit, decimalValue?, hascii, if_true] at h
  by_contra hno
  simp [hno] at h
  omega

theorem isNumeralBlank_of_digit {c : Char} (h : isDigit c = true) : isNumeralBlank c = false := by
  by_cases hascii : c.toNat < 0x80
  · exact isNumeralBlank_of_isDigit (isDigit_of_ascii hascii h)
  · have hwide : wideBlanks.contains c = false := by
      simp only [isDigit, Bool.or_eq_true, Bool.and_eq_true] at h
      rcases h with h | ⟨-, h⟩
      · exact CharSet.not_contains_of_disjoint (by decide +kernel) (contains_wideDecimals hascii h)
      · exact CharSet.not_contains_of_disjoint (by decide +kernel) h
    have hspace : c ≠ ' ' := by
      rintro rfl
      exact hascii (by decide)
    simp [isNumeralBlank, isAsciiBlank, hwide, hspace]
    omega

theorem ne_of_isDigit {c d : Char} (hc : isDigit c = true) (hd : isDigit d = false) : c ≠ d := by
  rintro rfl
  rw [hc] at hd
  cases hd

theorem isDigit_of_decimalValue? {c : Char} {d : Nat} (h : decimalValue? c = some d) : isDigit c = true := by
  simp [isDigit, h]

/-! ## Words that blanks and signs have no part in -/

theorem takeSign_cons {c : Char} (hminus : c ≠ '-') (hplus : c ≠ '+') (cs : List Char) :
    takeSign (c :: cs) = (false, c :: cs) := by
  unfold takeSign
  split <;> simp_all

theorem trimWhere_eq_self {p : Char → Bool} {cs : List Char} (h : ∀ c ∈ cs, p c = false) :
    trimWhere p cs = cs := by
  have hdrop : ∀ {l : List Char}, (∀ c ∈ l, p c = false) → l.dropWhile p = l := by
    intro l hl
    cases l with
    | nil => rfl
    | cons c l => exact List.dropWhile_cons_of_neg (by simp [hl c List.mem_cons_self])
  rw [trimWhere, hdrop h, hdrop (by simpa using h), List.reverse_reverse]

/-- The characters of such a word : no blanks, and no sign in front. -/
structure Unadorned (cs : List Char) : Prop where
  blank : ∀ c ∈ cs, isNumeralBlank c = false
  sign : takeSign cs = (false, cs)

namespace Unadorned

variable {cs : List Char}

theorem dropWhile (h : Unadorned cs) : cs.dropWhile isNumeralBlank = cs := by
  cases cs with
  | nil => rfl
  | cons c cs => exact List.dropWhile_cons_of_neg (by simp [h.blank c List.mem_cons_self])

theorem integer_eq (h : Unadorned cs) {ds : List Nat} {after : List Char}
    (htake : takeDigits cs = some (ds, after)) : integer (String.ofList cs) =
      if maxDigits < ds.length then .error (.tooLong ds.length)
      else if ds.isEmpty || !after.all isNumeralBlank then .error (.malformed (String.ofList cs))
      else .ok (ofDigits ds : Int) := by
  unfold integer
  rw [String.toList_ofList, h.dropWhile, h.sign]
  simp only [htake]
  rfl

theorem integer_of_none (h : Unadorned cs) (htake : takeDigits cs = none) :
    integer (String.ofList cs) = .error (.malformed (String.ofList cs)) := by
  unfold integer
  rw [String.toList_ofList, h.dropWhile, h.sign]
  simp only [htake]

theorem decimal?_eq (h : Unadorned cs) : decimal? (String.ofList cs) =
    if isWordOf ["inf", "infinity"] cs then some (.infinite false)
    else if isWordOf ["nan"] cs then some .nan
    else unsignedDecimal? false cs := by
  unfold decimal?
  rw [String.toList_ofList, trimWhere_eq_self h.blank, h.sign]

end Unadorned

/-! ## Runs of digits in front of a word -/

/-- The place values of digits. -/
abbrev PlaceValues (cs : List Char) (ds : List Nat) : Prop :=
  List.Forall₂ (fun c d => decimalValue? c = some d) cs ds

theorem moreDigits_append {cs : List Char} {ds : List Nat} (h : PlaceValues cs ds) {rest : List Char}
    (hrest : ∀ c, rest.head? = some c → decimalValue? c = none ∧ c ≠ '_') :
    moreDigits (cs ++ rest) = some (ds, rest) := by
  induction h with
  | nil =>
    cases rest with
    | nil => rfl
    | cons c rest =>
      obtain ⟨hc, hne⟩ := hrest c rfl
      rw [List.nil_append, moreDigits]
      · simp [hc]
      all_goals simp [hne]
  | @cons c d cs ds hc _ ih =>
    have hne : c ≠ '_' := ne_of_isDigit (isDigit_of_decimalValue? hc) (by decide)
    rw [List.cons_append, moreDigits]
    · simp [hc, ih]
    all_goals simp [hne]

theorem takeDigits_append {cs : List Char} {ds : List Nat} (h : PlaceValues cs ds) {rest : List Char}
    (hrest : ∀ c, rest.head? = some c → decimalValue? c = none ∧ c ≠ '_') :
    takeDigits (cs ++ rest) = some (ds, rest) := by
  rw [takeDigits, if_neg, moreDigits_append h hrest]
  intro hhead
  cases h with
  | nil => exact (hrest '_' hhead).2 rfl
  | cons hc _ =>
    cases hhead
    cases hc

theorem takeDigits_of_placeValues {cs : List Char} {ds : List Nat} (h : PlaceValues cs ds) :
    takeDigits cs = some (ds, []) := by
  have htake : takeDigits (cs ++ []) = some (ds, []) := takeDigits_append h nofun
  rwa [List.append_nil] at htake

/-! ## Texts of digits -/

theorem isDigits_iff {name : String} :
    isDigits name = true ↔ name.toList ≠ [] ∧ ∀ c ∈ name.toList, isDigit c = true := by
  simp [isDigits, List.all_eq_true]

theorem unadorned_of_isDigit {cs : List Char} (h : ∀ c ∈ cs, isDigit c = true) : Unadorned cs where
  blank c hc := isNumeralBlank_of_digit (h c hc)
  sign := by
    cases cs with
    | nil => rfl
    | cons c cs =>
      have hc := h c List.mem_cons_self
      exact takeSign_cons (ne_of_isDigit hc (by decide)) (ne_of_isDigit hc (by decide)) cs

theorem isDigit_of_placeValues {cs : List Char} {ds : List Nat} (h : PlaceValues cs ds) :
    ∀ c ∈ cs, isDigit c = true := by
  intro c hc
  induction h with
  | nil => cases hc
  | cons hd _ ih =>
    rcases List.mem_cons.1 hc with rfl | hc
    · exact isDigit_of_decimalValue? hd
    · exact ih hc

theorem exists_placeless {cs : List Char} (h : cs.all (fun c => (decimalValue? c).isSome) = false) :
    ∃ before c rest ds, cs = before ++ c :: rest ∧ PlaceValues before ds ∧ decimalValue? c = none := by
  induction cs with
  | nil => cases h
  | cons c cs ih =>
    cases hc : decimalValue? c with
    | none => exact ⟨[], c, cs, [], rfl, .nil, hc⟩
    | some d =>
      rw [List.all_cons, hc, Option.isSome_some, Bool.true_and] at h
      obtain ⟨before, c', rest, ds, rfl, hbefore, hc'⟩ := ih h
      exact ⟨c :: before, c', rest, d :: ds, rfl, .cons hc hbefore, hc'⟩

theorem all_isSome_of_placeValues {cs : List Char} {ds : List Nat} (h : PlaceValues cs ds) :
    cs.all (fun c => (decimalValue? c).isSome) = true := by
  refine List.all_eq_true.2 fun c hc => ?_
  obtain ⟨d, _, hd⟩ := exists_mem_of_forall₂ h.flip hc
  rw [hd, Option.isSome_some]

/-! ## Numerals -/

/-- The digits of a number, with their values. -/
theorem placeValues_toDigits (n : Nat) :
    PlaceValues (Nat.toDigits 10 n) ((Nat.toDigits 10 n).map placeValue) :=
  List.forall₂_map_right_iff.2 (List.forall₂_same.2 fun _ hc =>
    decimalValue?_of_isDigit (Nat.isDigit_of_mem_toDigits (by decide) (by decide) hc))

theorem toString_natCast (n : Nat) : toString (n : Int) = String.ofList (Nat.toDigits 10 n) := by
  rw [← String.toList_inj, Int.toString_eq_repr, Int.repr_eq_if, if_pos (Int.natCast_nonneg n), Int.toNat_natCast,
    Nat.toList_repr, String.toList_ofList]

/-- Digits with place values are a numeral, unless there are too many of them. -/
theorem integer_of_placeValues {cs : List Char} {ds : List Nat} (h : PlaceValues cs ds) (hne : cs ≠ []) :
    integer (String.ofList cs) =
      if maxDigits < ds.length then .error (.tooLong ds.length) else .ok (ofDigits ds : Int) := by
  have hds : ds ≠ [] := by
    rintro rfl
    exact hne (List.forall₂_nil_right_iff.1 h)
  rw [(unadorned_of_isDigit (isDigit_of_placeValues h)).integer_eq (takeDigits_of_placeValues h)]
  simp [hds]

/-- Reading a numeral stops at a digit without place value. -/
theorem takeDigits_of_placeless {cs : List Char} {c : Char} {rest : List Char} {ds : List Nat}
    (h : PlaceValues cs ds) (hc : decimalValue? c = none) (hdigit : isDigit c = true) :
    takeDigits (cs ++ c :: rest) = some (ds, c :: rest) := by
  refine takeDigits_append h fun x hx => ?_
  cases hx
  exact ⟨hc, ne_of_isDigit hdigit (by decide)⟩

/-- Digits of which one has no place value are no numeral. -/
theorem exists_integer_of_placeless {cs : List Char} {c : Char} {rest : List Char} {ds : List Nat}
    (h : PlaceValues cs ds) (hc : decimalValue? c = none) (hdigits : ∀ x ∈ cs ++ c :: rest, isDigit x = true) :
    ∃ fault, integer (String.ofList (cs ++ c :: rest)) = .error fault := by
  have hdigit : isDigit c = true := hdigits c (by simp)
  rw [(unadorned_of_isDigit hdigits).integer_eq (takeDigits_of_placeless h hc hdigit)]
  split
  · exact ⟨_, rfl⟩
  · rw [if_pos (by simp [isNumeralBlank_of_digit hdigit])]
    exact ⟨_, rfl⟩

end LoanCheck.Text

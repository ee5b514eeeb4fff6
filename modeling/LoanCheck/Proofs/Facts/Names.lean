import LoanCheck.Facts.Reader
import LoanCheck.Facts.Writer
import LoanCheck.Proofs.Sexp.Spelling
import LoanCheck.Proofs.Text.Numerals

/-!
# Written names and points

A written name stands for one datum, whatever the name is (`exists_renders`) : a word, a quoted word or a string.
Whether the datum spells the name it was written for is another matter (`ReadsBack`) : digits may come back as other
digits, and a line break after an identifier gets lost. A point stands for itself (`readsAs_toString`).
-/

namespace LoanCheck.Facts

open Sexp

/-! ## Plain characters -/

/-- The characters that may not stand inside of a word as they are. -/
def specials : List Char :=
  ['(', ')', '[', ']', '"', ';', '\\', ' ', '\t', '\n', '\x0b', '\x0c', '\r']

theorem mem_specials {c : Char} (h : isDelimiter c = true ∨ c = '\\') : c ∈ specials := by
  rcases h with h | rfl
  · simp only [isDelimiter, Text.isAsciiBlank, Bool.or_eq_true, Bool.and_eq_true, beq_iff_eq,
      decide_eq_true_eq] at h
    have hnat : c = Char.ofNat c.toNat := (Char.ofNat_toNat c).symm
    rcases h with (((((rfl | rfl) | rfl) | rfl) | rfl) | rfl) | rfl | hblank
    case inr.inr =>
      have : c.toNat = 9 ∨ c.toNat = 10 ∨ c.toNat = 11 ∨ c.toNat = 12 ∨ c.toNat = 13 := by omega
      rcases this with hc | hc | hc | hc | hc <;> rw [hnat, hc] <;> decide
    all_goals decide
  · decide

/-- A class of characters without special ones has plain characters only. -/
theorem isPlain_of_class {p : Char → Bool} (hp : specials.all (!p ·) = true) {c : Char}
    (hc : p c = true) : IsPlain c := by
  have hspecial : c ∉ specials := fun h => by
    have := List.all_eq_true.1 hp c h
    rw [hc] at this
    cases this
  constructor
  · by_contra h
    exact hspecial (mem_specials (.inl (by simpa using h)))
  · exact fun h => hspecial (mem_specials (.inr h))

theorem isPlain_of_isNameChar {c : Char} (h : isNameChar c = true) : IsPlain c :=
  isPlain_of_class (by decide) h

/-- Characters of such a class make a word, if the apostrophe is none of them. -/
theorem isWord_of_class {p : Char → Bool} (hp : specials.all (!p ·) = true) (hquote : p '\'' = false)
    {w : List Char} (hne : w ≠ []) (hw : w.all p = true) : IsWord w where
  ne_nil := hne
  plain c hc := isPlain_of_class hp (List.all_eq_true.1 hw c hc)
  head h := by
    have := List.all_eq_true.1 hw _ (List.mem_of_head? h)
    rw [hquote] at this
    cases this

/-! ## Bare names -/

theorem isNameChar_of_isNameStart {c : Char} (h : isNameStart c = true) : isNameChar c = true := by
  unfold isNameStart at h
  unfold isNameChar Char.isAlphanum
  grind

/-- An identifier, and a line break or none. -/
theorem exists_parts_of_identifier {c : Char} {rest : List Char} (h : (isNameStart c && (rest.all isNameChar ||
    (rest.getLast? = some '\n' && rest.dropLast.all isNameChar))) = true) :
    ∃ w blank, isNameStart c = true ∧ (∀ x ∈ w, isNameChar x = true) ∧ (blank = [] ∨ blank = ['\n']) ∧
      rest = w ++ blank := by
  simp only [Bool.and_eq_true, Bool.or_eq_true, List.all_eq_true, decide_eq_true_eq] at h
  obtain ⟨hstart, hrest | ⟨hlast, hinit⟩⟩ := h
  · exact ⟨rest, [], hstart, hrest, .inl rfl, (List.append_nil rest).symm⟩
  · exact ⟨rest.dropLast, ['\n'], hstart, hinit, .inr rfl,
      (List.dropLast_append_getLast? _ hlast).symm⟩

theorem isWord_of_identifier {c : Char} {w : List Char} (hc : isNameStart c = true)
    (hw : ∀ x ∈ w, isNameChar x = true) : IsWord (c :: w) where
  ne_nil := List.cons_ne_nil c w
  plain := List.forall_mem_cons.2 ⟨isPlain_of_isNameChar (isNameChar_of_isNameStart hc),
    fun x hx => isPlain_of_isNameChar (hw x hx)⟩
  head h := by
    cases h
    exact absurd hc (by decide)

/-! ## Strings -/

/-- A character inside of a written string. -/
def writtenChar (c : Char) : List Char :=
  if c = '\\' then ['\\', '\\'] else if c = '"' then ['\\', '"'] else [c]

/-- Quotes are escaped after backslashes, and no character is escaped twice. -/
theorem toList_escaped (name : String) :
    (Text.replaceChar (Text.replaceChar name '\\' "\\\\") '"' "\\\"").toList = name.toList.flatMap writtenChar := by
  rw [Text.toList_replaceChar, Text.toList_replaceChar, List.flatMap_assoc]
  congr 1
  funext c
  unfold writtenChar
  by_cases hbackslash : c = '\\'
  · subst hbackslash
    rfl
  · rw [if_neg hbackslash, if_neg hbackslash, List.flatMap_singleton]
    rfl

theorem exists_scanFrom_writtenChar (collected : List Char) (i : Nat) (c : Char) (rest : List Char) :
    ∃ j, scanFrom (.string collected) i (writtenChar c ++ rest) =
      scanFrom (.string (c :: collected)) j rest := by
  unfold writtenChar
  split
  next hc =>
    cases hc
    exact ⟨i + 2, by simp [scanFrom, stringPair]⟩
  next hbackslash =>
    split
    next hc =>
      cases hc
      exact ⟨i + 2, by simp [scanFrom, stringPair]⟩
    next hquote => exact ⟨i + 1, by simp [scanFrom, hbackslash, hquote]⟩

theorem exists_scanFrom_flatMap_writtenChar (cs collected : List Char) (i : Nat) (rest : List Char) :
    ∃ j, scanFrom (.string collected) i (cs.flatMap writtenChar ++ '"' :: rest) =
      .string (collected.reverse ++ cs) :: scanFrom .between j rest := by
  induction cs generalizing collected i with
  | nil => exact ⟨i + 1, by simp [scanFrom]⟩
  | cons c cs ih =>
    obtain ⟨j, hj⟩ := exists_scanFrom_writtenChar collected i c (cs.flatMap writtenChar ++ '"' :: rest)
    obtain ⟨k, hk⟩ := ih (c :: collected) j
    refine ⟨k, ?_⟩
    rw [List.flatMap_cons, List.append_assoc, hj, hk]
    simp

/-- A written string stands for itself. -/
theorem readsAs_flatMap_writtenChar (cs : List Char) :
    ReadsAs ('"' :: cs.flatMap writtenChar ++ ['"']) [.string (String.ofList cs)] := by
  intro i rest _
  obtain ⟨j, hj⟩ := exists_scanFrom_flatMap_writtenChar cs [] (i + 1) rest
  refine ⟨[.string cs], j, ?_, .string cs⟩
  rw [List.append_assoc, List.cons_append, scanFrom_between_cons, List.singleton_append]
  show scanFrom (.string []) (i + 1) (cs.flatMap writtenChar ++ '"' :: rest) = _
  rw [hj]
  rfl

/-! ## Names -/

/-- The datum that a written name stands for : a word, a quoted word or a string. A line break after an identifier is
no part of the word. -/
inductive Renders : String → Datum → Prop where
  | digits {name : String} : Text.isDigits name = true → Renders name (.ofWord name)
  | identifier {c : Char} {w blank : List Char} : isNameStart c = true → (∀ x ∈ w, isNameChar x = true) →
      blank = [] ∨ blank = ['\n'] →
      Renders (String.ofList (c :: (w ++ blank))) (.ofWord (String.ofList (c :: w)))
  | quoted {c : Char} {w blank : List Char} : isNameStart c = true → (∀ x ∈ w, isNameChar x = true) →
      blank = [] ∨ blank = ['\n'] →
      Renders (String.ofList ('\'' :: c :: (w ++ blank))) (.quoted (.ofWord (String.ofList (c :: w))))
  | string {name : String} : Text.isDigits name = false → isBareName name.toList = false →
      Renders name (.string name)

theorem readsAs_append_blank {cs blank : List Char} {d : Datum} (h : ReadsAs cs [d])
    (hblank : blank = [] ∨ blank = ['\n']) : ReadsAs (cs ++ blank) [d] := by
  rcases hblank with rfl | rfl
  · rwa [List.append_nil]
  · exact h.append (.blank_cons (by decide) .nil) (isDelimiter_of_isAsciiBlank (by decide))

theorem exists_renders_of_isBareName {cs : List Char} (h : isBareName cs = true) :
    ∃ d, ReadsAs cs [d] ∧ Renders (String.ofList cs) d := by
  unfold isBareName at h
  split at h
  next _ identifier =>
    cases identifier with
    | nil => cases h
    | cons c rest =>
      obtain ⟨w, blank, hc, hw, hblank, rfl⟩ := exists_parts_of_identifier h
      exact ⟨_, readsAs_append_blank (.quotedWord (isWord_of_identifier hc hw)) hblank,
        .quoted hc hw hblank⟩
  next =>
    cases cs with
    | nil => cases h
    | cons c rest =>
      obtain ⟨w, blank, hc, hw, hblank, rfl⟩ := exists_parts_of_identifier h
      exact ⟨_, readsAs_append_blank (.word (isWord_of_identifier hc hw)) hblank,
        .identifier hc hw hblank⟩

/-- Every written name stands for a single datum. -/
theorem exists_renders (name : String) :
    ∃ d, ReadsAs (writtenName name).toList [d] ∧ Renders name d := by
  unfold writtenName
  by_cases hdigits : Text.isDigits name = true
  · rw [if_pos (by simp [hdigits])]
    refine ⟨_, ?_, .digits hdigits⟩
    simp only [Text.isDigits, Bool.and_eq_true, Bool.not_eq_true', String.isEmpty_eq_false_iff] at hdigits
    obtain ⟨hne, hdigits⟩ := hdigits
    have hword := ReadsAs.word (isWord_of_class (by decide) (by decide)
      (fun hnil => hne (String.toList_eq_nil_iff.1 hnil)) hdigits)
    rwa [String.ofList_toList] at hword
  · by_cases hbare : isBareName name.toList = true
    · rw [if_pos (by simp [hbare])]
      obtain ⟨d, hreads, hrenders⟩ := exists_renders_of_isBareName hbare
      rw [String.ofList_toList] at hrenders
      exact ⟨d, hreads, hrenders⟩
    · rw [if_neg (by simp [hdigits, hbare]), String.toList_append, String.toList_append, toList_escaped]
      have hstring := readsAs_flatMap_writtenChar name.toList
      rw [String.ofList_toList] at hstring
      exact ⟨_, hstring, .string (by simpa using hdigits) (by simpa using hbare)⟩

theorem Renders.ne_list {name : String} {d : Datum} (h : Renders name d) (items : List Datum) : d ≠ .list items := by
  have hword : ∀ word, Datum.ofWord word ≠ .list items := by
    intro word
    unfold Datum.ofWord
    split
    · exact nofun
    · split <;> exact nofun
  cases h with
  | digits _ | identifier _ _ _ => exact hword _
  | quoted _ _ _ | string _ _ => exact nofun

/-- The name is read back as it was written. -/
def ReadsBack (name : String) : Prop :=
  ∃ d, readAll (writtenName name) = .ok [d] ∧ ∀ source, nameOf source d = .ok name

theorem ReadsBack.readsAs {name : String} (h : ReadsBack name) :
    ∃ d, ReadsAs (writtenName name).toList [d] ∧ ∀ source, nameOf source d = .ok name := by
  obtain ⟨d, hread, hname⟩ := h
  obtain ⟨d', hreads, -⟩ := exists_renders name
  rw [readAll_of_readsAs hreads] at hread
  cases hread
  exact ⟨d, hreads, hname⟩

/-! ## Points -/

/-- A written point stands for itself. -/
theorem readsAs_toString {p : Int} (h : 0 ≤ p) (hp : Text.isWritable p = true) :
    ReadsAs (toString p).toList [.int p] := by
  have hdigits : (toString p).toList = Nat.toDigits 10 p.toNat := by
    rw [Int.toString_eq_repr, Int.repr_eq_if, if_pos h, Nat.toList_repr]
  have hword : Datum.ofWord (toString p) = .int p := by
    rw [Datum.ofWord, Text.integer_toString hp]
  rw [← hword, ← String.ofList_toList (s := toString p), String.toList_ofList, hdigits]
  exact .word (isWord_of_class (by decide) (by decide) Nat.toDigits_ne_nil
    (List.all_eq_true.2 fun c hc => Nat.isDigit_of_mem_toDigits (by decide) (by decide) hc))

end LoanCheck.Facts

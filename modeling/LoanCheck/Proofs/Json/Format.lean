import LoanCheck.Proofs.Json.RoundTrip
import Mathlib.Data.List.Forall2

/-!
# The format of written JSON

Which of the texts of a value is written. `Writes v cs` states the rules : no blanks but one behind each comma and
each colon, keys ascending, and strings in printable ASCII (`Spells`), where a character that has an escape of one
letter is written with it and other characters outside of printable ASCII by their UTF-16 units. Values whose keys
ascend are written by these rules (`writes_chars`). All text is printable ASCII (`isPrintable_of_mem_chars`).
-/

namespace LoanCheck.Json

/-- The character is printable ASCII. -/
def IsPrintable (c : Char) : Prop :=
  0x20 ≤ c.toNat ∧ c.toNat < 0x7f

instance (c : Char) : Decidable (IsPrintable c) :=
  inferInstanceAs (Decidable (0x20 ≤ c.toNat ∧ c.toNat < 0x7f))

/-! ## Rules -/

/-- The character has an escape of one letter that is used. A slash could be escaped and is not. -/
def HasLetter (c : Char) : Prop :=
  ∃ l, l ≠ '/' ∧ escaped? l = some c

/-- How a character is written inside of a string. -/
inductive Spells (c : Char) : List Char → Prop
  | letter {l : Char} (hl : l ≠ '/') (h : escaped? l = some c) : Spells c ['\\', l]
  | plain (hc : ¬ HasLetter c) (h : IsPrintable c) : Spells c [c]
  | units (hc : ¬ HasLetter c) (h : ¬ IsPrintable c) : Spells c ((charUnits c).flatMap unitEscape)

/-- How a string is written. -/
def Quotes (s : String) (cs : List Char) : Prop :=
  ∃ pieces, List.Forall₂ Spells s.toList pieces ∧ cs = '"' :: pieces.flatten ++ ['"']

/-- How a value is written. -/
inductive Writes : Value → List Char → Prop
  | null : Writes .null ['n', 'u', 'l', 'l']
  | true : Writes (.bool true) ['t', 'r', 'u', 'e']
  | false : Writes (.bool false) ['f', 'a', 'l', 's', 'e']
  | int (i : Int) : Writes (.int i) (toString i).toList
  | string {s : String} {cs : List Char} (h : Quotes s cs) : Writes (.string s) cs
  | array {items : List Value} {texts : List (List Char)} (h : List.Forall₂ Writes items texts) :
    Writes (.array items) ('[' :: [',', ' '].intercalate texts ++ [']'])
  | object {members : List (String × Value)} {keys texts : List (List Char)}
    (hascend : (members.map Prod.fst).Pairwise (· < ·)) (hkeys : List.Forall₂ Quotes (members.map Prod.fst) keys)
    (h : List.Forall₂ Writes (members.map Prod.snd) texts) :
    Writes (.object members)
      ('{' :: [',', ' '].intercalate (List.zipWith (fun key text => key ++ ':' :: ' ' :: text) keys texts) ++ ['}'])

/-- The keys of each object in the value ascend. -/
inductive Value.KeysAscend : Value → Prop
  | null : KeysAscend .null
  | bool (b : Bool) : KeysAscend (.bool b)
  | int (i : Int) : KeysAscend (.int i)
  | string (s : String) : KeysAscend (.string s)
  | array {items : List Value} (h : ∀ v ∈ items, KeysAscend v) : KeysAscend (.array items)
  | object {members : List (String × Value)} (hascend : (members.map Prod.fst).Pairwise (· < ·))
    (h : ∀ m ∈ members, KeysAscend m.2) : KeysAscend (.object members)

/-! ## Values are written by the rules -/

theorem spells_escapeChar (c : Char) : Spells c (escapeChar c) := by
  unfold escapeChar
  split
  case h_8 hquote hbackslash hn hr ht hb hf =>
    have hletter : ¬ HasLetter c := by
      rintro ⟨l, hl, h⟩
      unfold escaped? at h
      split at h <;> cases h <;> contradiction
    simp only [Bool.and_eq_true, decide_eq_true_eq]
    split_ifs with hprintable hsmall
    · exact .plain hletter hprintable
    · have hunits : unitEscape c.toNat = (charUnits c).flatMap unitEscape := by simp [charUnits, hsmall]
      rw [hunits]
      exact .units hletter hprintable
    · have hunits : unitEscape (0xd800 + (c.toNat - 0x10000) / 0x400) ++
          unitEscape (0xdc00 + (c.toNat - 0x10000) % 0x400) = (charUnits c).flatMap unitEscape := by
        simp [charUnits, hsmall]
      rw [hunits]
      exact .units hletter hprintable
  all_goals exact .letter (by decide) rfl

theorem quotes_quote (s : String) : Quotes s (quote s) := by
  refine ⟨s.toList.map escapeChar, ?_, ?_⟩
  · rw [List.forall₂_map_right_iff, List.forall₂_same]
    exact fun c _ => spells_escapeChar c
  · rw [quote, List.flatMap_def]

theorem commaSeparated_eq_intercalate (pieces : List (List Char)) :
    commaSeparated pieces = [',', ' '].intercalate pieces := by
  induction pieces with
  | nil => rfl
  | cons piece rest ih =>
    cases rest with
    | nil => simp [commaSeparated]
    | cons next rest => simp [commaSeparated, ih, List.intercalate_cons_cons]

theorem writes_chars {v : Value} (h : v.KeysAscend) : Writes v v.chars := by
  induction h with
  | null => exact .null
  | bool b =>
    cases b
    · exact .false
    · exact .true
  | int i => exact .int i
  | string s => exact .string (quotes_quote s)
  | array _ ih =>
    rw [Value.chars, Value.itemChars_eq_map, commaSeparated_eq_intercalate]
    exact .array (List.forall₂_map_right_iff.2 (List.forall₂_same.2 ih))
  | @object members hascend _ ih =>
    have hpairs : members.map Value.pairChars = List.zipWith (fun key text => key ++ ':' :: ' ' :: text)
        (members.map fun m => quote m.1) (members.map fun m => m.2.chars) := by
      simp [List.zipWith_map, List.zipWith_self, Value.pairChars]
    rw [Value.chars, Value.memberChars_eq_map, commaSeparated_eq_intercalate, hpairs]
    refine .object hascend ?_ ?_
    · rw [List.forall₂_map_left_iff, List.forall₂_map_right_iff, List.forall₂_same]
      exact fun m _ => quotes_quote m.1
    · rw [List.forall₂_map_left_iff, List.forall₂_map_right_iff, List.forall₂_same]
      exact ih

/-! ## Printable ASCII -/

theorem isPrintable_of_isDigit {c : Char} (h : c.isDigit = true) : IsPrintable c := by
  have hrange := Text.toNat_of_isDigit h
  unfold IsPrintable
  omega

theorem isPrintable_digitChar {d : Nat} (h : d < 16) : IsPrintable d.digitChar := by
  revert d
  decide

theorem isPrintable_of_mem_toDigits {c : Char} {n : Nat} (h : c ∈ Nat.toDigits 16 n) : IsPrintable c := by
  induction n using Nat.strongRecOn with
  | ind n ih =>
    by_cases hlt : n < 16
    · rw [Nat.toDigits_of_lt_base hlt, List.mem_singleton] at h
      exact h ▸ isPrintable_digitChar hlt
    · rw [Nat.toDigits_of_base_le (by decide) (by omega), List.mem_append, List.mem_singleton] at h
      rcases h with h | h
      · exact ih (n / 16) (by omega) h
      · exact h ▸ isPrintable_digitChar (Nat.mod_lt _ (by decide))

theorem isPrintable_of_mem_unitEscape {c : Char} {unit : Nat} (h : c ∈ unitEscape unit) : IsPrintable c := by
  simp only [unitEscape, Text.paddedHex, List.mem_cons, List.mem_append, List.mem_replicate] at h
  rcases h with rfl | rfl | ⟨-, rfl⟩ | h
  · decide
  · decide
  · decide
  · exact isPrintable_of_mem_toDigits h

theorem isPrintable_of_escaped? {l c : Char} (h : escaped? l = some c) : IsPrintable l := by
  unfold escaped? at h
  split at h
  case h_9 => cases h
  all_goals decide

theorem Spells.isPrintable {c : Char} {cs : List Char} (h : Spells c cs) : ∀ x ∈ cs, IsPrintable x := by
  cases h with
  | letter _ h =>
    rw [List.forall_mem_cons, List.forall_mem_singleton]
    exact ⟨by decide, isPrintable_of_escaped? h⟩
  | plain _ h => exact List.forall_mem_singleton.2 h
  | units =>
    intro x hx
    obtain ⟨unit, _, hx⟩ := List.mem_flatMap.1 hx
    exact isPrintable_of_mem_unitEscape hx

theorem isPrintable_of_mem_quote {s : String} : ∀ c ∈ quote s, IsPrintable c := by
  have hmark : IsPrintable '"' := by decide
  rw [quote, List.forall_mem_append, List.forall_mem_cons, List.forall_mem_singleton]
  refine ⟨⟨hmark, fun x hx => ?_⟩, hmark⟩
  obtain ⟨c, _, hx⟩ := List.mem_flatMap.1 hx
  exact (spells_escapeChar c).isPrintable x hx

theorem isPrintable_of_mem_commaSeparated {pieces : List (List Char)} (h : ∀ p ∈ pieces, ∀ c ∈ p, IsPrintable c) :
    ∀ c ∈ commaSeparated pieces, IsPrintable c := by
  fun_induction commaSeparated pieces with
  | case1 => simp
  | case2 piece => exact h piece List.mem_cons_self
  | case3 piece rest _ ih =>
    obtain ⟨hpiece, hrest⟩ := List.forall_mem_cons.1 h
    rw [List.forall_mem_append, List.forall_mem_cons, List.forall_mem_cons]
    exact ⟨hpiece, by decide, by decide, ih hrest⟩

theorem isPrintable_of_mem_chars (v : Value) : ∀ c ∈ v.chars, IsPrintable c := by
  have hbetween {left right : Char} (hleft : IsPrintable left) (hright : IsPrintable right)
      {pieces : List (List Char)} (h : ∀ p ∈ pieces, ∀ c ∈ p, IsPrintable c) :
      ∀ c ∈ left :: commaSeparated pieces ++ [right], IsPrintable c := by
    rw [List.forall_mem_append, List.forall_mem_cons, List.forall_mem_singleton]
    exact ⟨⟨hleft, isPrintable_of_mem_commaSeparated h⟩, hright⟩
  induction v using Value.inductionOn with
  | null => simp [Value.chars, IsPrintable]
  | bool b => cases b <;> simp [Value.chars, IsPrintable]
  | int i =>
    rw [Value.chars, Text.toList_toString_int, List.forall_mem_append]
    refine ⟨by split <;> simp [IsPrintable], fun c hc => ?_⟩
    exact isPrintable_of_isDigit (Nat.isDigit_of_mem_toDigits (by decide) (by decide) hc)
  | string s => exact isPrintable_of_mem_quote
  | array items ih =>
    rw [Value.chars, Value.itemChars_eq_map]
    exact hbetween (by decide) (by decide) (List.forall_mem_map.2 ih)
  | object members ih =>
    rw [Value.chars, Value.memberChars_eq_map]
    refine hbetween (by decide) (by decide) (List.forall_mem_map.2 fun m hm => ?_)
    rw [Value.pairChars, List.forall_mem_append, List.forall_mem_cons, List.forall_mem_cons]
    exact ⟨isPrintable_of_mem_quote, by decide, by decide, ih m hm⟩

end LoanCheck.Json

import LoanCheck.Proofs.Json.Decoder
import LoanCheck.Proofs.Text.Numerals
import Mathlib.Data.List.Basic
import Mathlib.Tactic.SplitIfs

/-!
# Written JSON is read back

Reading the text of a value gives the value (`decode_encode`). `Leads cs r r'` says what a text does to a reading
wherever it stands in front of something that ends a word. Such texts can be put together, and the induction over
values says that the text of a value leads from where a value must follow to where it has ended (`leads_chars`).

Strings are where the work is : a written character is read as its UTF-16 units (`scanFrom_escapeChar`), and the
units of a text give the text back (`ofUnits?_flatMap`).
-/

namespace LoanCheck.Json

/-! ## Units -/

/-- No character is a surrogate. -/
theorem not_surrogate_toNat (c : Char) : isHighSurrogate c.toNat = false ∧ isLowSurrogate c.toNat = false := by
  have hvalid : c.toNat < 0xd800 ∨ 0xdfff < c.toNat ∧ c.toNat < 0x110000 := c.valid
  simp only [isHighSurrogate, isLowSurrogate, Bool.and_eq_false_iff, decide_eq_false_iff_not]
  omega

theorem unitChar?_toNat (c : Char) : unitChar? c.toNat = some c := by
  obtain ⟨hhigh, hlow⟩ := not_surrogate_toNat c
  simp [unitChar?, hhigh, hlow]

/-- The units of a character in front of others are read as the character. -/
theorem ofUnits?_charUnits_append (c : Char) (units : List Nat) :
    ofUnits? (charUnits c ++ units) = (ofUnits? units).map (c :: ·) := by
  unfold charUnits
  split
  next =>
    cases units with
    | nil => simp [ofUnits?, unitChar?_toNat]
    | cons unit units =>
      rw [List.singleton_append, ofUnits?, (not_surrogate_toNat c).1, unitChar?_toNat]
      rfl
  next hlarge =>
    have hvalid : c.toNat < 0xd800 ∨ 0xdfff < c.toNat ∧ c.toNat < 0x110000 := c.valid
    have hhigh : isHighSurrogate (0xd800 + (c.toNat - 0x10000) / 0x400) = true := by
      simp only [isHighSurrogate, Bool.and_eq_true, decide_eq_true_eq]
      omega
    have hlow : isLowSurrogate (0xdc00 + (c.toNat - 0x10000) % 0x400) = true := by
      simp only [isLowSurrogate, Bool.and_eq_true, decide_eq_true_eq]
      omega
    have hsum : 0x10000 + (0xd800 + (c.toNat - 0x10000) / 0x400 - 0xd800) * 0x400 +
        (0xdc00 + (c.toNat - 0x10000) % 0x400 - 0xdc00) = c.toNat := by omega
    rw [List.cons_append, List.singleton_append, ofUnits?, hhigh, hlow, hsum, Char.ofNat_toNat]
    rfl

theorem ofUnits?_flatMap (text : List Char) : ofUnits? (text.flatMap charUnits) = some text := by
  induction text with
  | nil => rfl
  | cons c cs ih => rw [List.flatMap_cons, ofUnits?_charUnits_append, ih, Option.map_some]

/-! ## Hexadecimal digits -/

theorem hexValue?_digitChar {d : Nat} (h : d < 16) : Toml.hexValue? d.digitChar = some d := by
  revert d
  decide

theorem hexNumber?_concat (digits : List Char) (c : Char) : hexNumber? (digits ++ [c]) =
    (hexNumber? digits).bind fun n => (Toml.hexValue? c).map (16 * n + ·) := by
  rw [hexNumber?, List.foldlM_append]
  simp [hexNumber?]

theorem hexNumber?_toDigits (n : Nat) : hexNumber? (Nat.toDigits 16 n) = some n := by
  induction n using Nat.strongRecOn with
  | ind n ih =>
    by_cases hlt : n < 16
    · rw [Nat.toDigits_of_lt_base hlt]
      simp [hexNumber?, hexValue?_digitChar hlt]
    · have hdigit : n % 16 < 16 := Nat.mod_lt _ (by decide)
      rw [Nat.toDigits_of_base_le (by decide) (by omega), hexNumber?_concat, ih (n / 16) (by omega), Option.bind_some,
        hexValue?_digitChar hdigit, Option.map_some, Nat.div_add_mod]

/-- Zeros in front do not count. -/
theorem hexNumber?_paddedHex (width n : Nat) : hexNumber? (Text.paddedHex width n) = some n := by
  have hzeros (k : Nat) : hexNumber? (List.replicate k '0') = some 0 := by
    induction k with
    | zero => rfl
    | succ k ih =>
      rw [List.replicate_succ', hexNumber?_concat, ih]
      rfl
  have happend := hzeros (width - (Nat.toDigits 16 n).length)
  unfold hexNumber? at happend
  rw [Text.paddedHex, hexNumber?, List.foldlM_append, happend]
  exact hexNumber?_toDigits n

theorem length_paddedHex {n : Nat} (h : n < 0x10000) : (Text.paddedHex 4 n).length = 4 := by
  have hlength : (Nat.toDigits 16 n).length ≤ 4 := (Nat.length_toDigits_le_iff (by decide) (by decide)).2 h
  simp only [Text.paddedHex, List.length_append, List.length_replicate]
  omega

/-! ## Strings -/

theorem scanFrom_unitEscape {unit : Nat} (h : unit < 0x10000) (units : List Nat) (rest : List Char) :
    scanFrom (.string units) (unitEscape unit ++ rest) = scanFrom (.string (unit :: units)) rest := by
  have hnumber := hexNumber?_paddedHex 4 unit
  -- the scanner counts the digits, so all four of them have to be seen
  obtain ⟨a, b, c, d, hdigits⟩ := List.length_eq_four.1 (length_paddedHex h)
  rw [hdigits] at hnumber
  rw [unitEscape, hdigits]
  show (hexNumber? [a, b, c, d]).bind (fun n => scanFrom (.string (n :: units)) rest) = _
  rw [hnumber, Option.bind_some]

/-- A written character is read as its units. -/
theorem scanFrom_escapeChar (c : Char) (units : List Nat) (rest : List Char) :
    scanFrom (.string units) (escapeChar c ++ rest) = scanFrom (.string ((charUnits c).reverse ++ units)) rest := by
  unfold escapeChar
  split
  case h_8 hquote hbackslash _ _ _ _ _ =>
    simp only [Bool.and_eq_true, decide_eq_true_eq]
    split_ifs with hprintable hsmall
    · -- the character stands for itself
      have hunits : charUnits c = [c.toNat] := if_pos (by omega)
      rw [hunits, List.singleton_append, scanFrom_string_cons, if_neg hquote, if_neg hbackslash, if_neg (by omega),
        hunits]
    · rw [charUnits, if_pos hsmall, scanFrom_unitEscape hsmall]
      rfl
    · have hvalid : c.toNat < 0xd800 ∨ 0xdfff < c.toNat ∧ c.toNat < 0x110000 := c.valid
      rw [charUnits, if_neg hsmall, List.append_assoc, scanFrom_unitEscape (by omega), scanFrom_unitEscape (by omega)]
      rfl
  all_goals rfl

/-- A written text is read up to the quote behind it. -/
theorem scanFrom_flatMap_escapeChar (text : List Char) (units : List Nat) (rest : List Char) :
    scanFrom (.string units) (text.flatMap escapeChar ++ '"' :: rest) =
      (ofUnits? (units.reverse ++ text.flatMap charUnits)).bind fun read =>
        (scanFrom .between rest).map (.value (.string (String.ofList read)) :: ·) := by
  induction text generalizing units with
  | nil => rw [List.flatMap_nil, List.nil_append, scanFrom_string_cons, if_pos rfl, List.flatMap_nil, List.append_nil]
  | cons c cs ih =>
    rw [List.flatMap_cons, List.append_assoc, scanFrom_escapeChar, ih]
    simp

/-! ## Tokens in a text -/

/-- A word in front of the text has ended. -/
def Ends : List Char → Prop
  | [] => True
  | c :: _ => isDelimiter c = true

/-- The text is one token wherever it stands in front of something that ends a word. -/
def IsToken (cs : List Char) (t : Token) : Prop :=
  ∀ rest, Ends rest → scanFrom .between (cs ++ rest) = (scanFrom .between rest).map (t :: ·)

theorem isToken_quote (s : String) : IsToken (quote s) (.value (.string s)) := by
  intro rest _
  have hopen : scanFrom .between (quote s ++ rest) =
      scanFrom (.string []) (s.toList.flatMap escapeChar ++ '"' :: rest) := by
    have hquote : beginToken '"' = ([], .string []) := rfl
    rw [quote, List.append_assoc, List.cons_append, scanFrom_between_cons, hquote]
    simp
  rw [hopen, scanFrom_flatMap_escapeChar, List.reverse_nil, List.nil_append, ofUnits?_flatMap, Option.bind_some,
    String.ofList_toList]

theorem beginToken_of_not_isDelimiter {c : Char} (h : isDelimiter c = false) : beginToken c = ([], .word [c]) := by
  unfold beginToken
  split
  case h_8 =>
    simp only [isDelimiter, Bool.or_eq_false_iff] at h
    rw [h.2, if_neg Bool.false_ne_true]
  all_goals exact absurd h (by decide)

theorem scanFrom_word_append {w : List Char} (h : ∀ c ∈ w, isDelimiter c = false) (collected rest : List Char) :
    scanFrom (.word collected) (w ++ rest) = scanFrom (.word (w.reverse ++ collected)) rest := by
  induction w generalizing collected with
  | nil => rfl
  | cons c cs ih =>
    obtain ⟨hc, hcs⟩ := List.forall_mem_cons.1 h
    rw [List.cons_append, scanFrom_word_cons, hc, if_neg Bool.false_ne_true, ih hcs]
    simp

theorem scanFrom_word_of_ends {rest : List Char} (h : Ends rest) (collected : List Char) :
    scanFrom (.word collected) rest =
      (wordValue? collected.reverse).bind fun v => (scanFrom .between rest).map (.value v :: ·) := by
  cases rest with
  | nil =>
    rw [scanFrom_word_nil, Option.map_eq_bind]
    rfl
  | cons c cs =>
    have hc : isDelimiter c = true := h
    rw [scanFrom_word_cons, scanFrom_between_cons, if_pos hc]
    simp [Function.comp_def]

theorem isToken_word {w : List Char} {v : Value} (hne : w ≠ []) (h : ∀ c ∈ w, isDelimiter c = false)
    (hv : wordValue? w = some v) : IsToken w (.value v) := by
  intro rest hrest
  obtain ⟨c, cs, rfl⟩ := List.exists_cons_of_ne_nil hne
  obtain ⟨hc, hcs⟩ := List.forall_mem_cons.1 h
  have hword : (cs.reverse ++ [c]).reverse = c :: cs := by simp
  rw [List.cons_append, scanFrom_between_cons, beginToken_of_not_isDelimiter hc, scanFrom_word_append hcs,
    scanFrom_word_of_ends hrest, hword, hv]
  simp [Function.comp_def]

/-! ## Integers -/

theorem natural?_toDigits (n : Nat) : natural? (Nat.toDigits 10 n) = some n := by
  have hdigits : ∀ c ∈ Nat.toDigits 10 n, c.isDigit = true :=
    fun c hc => Nat.isDigit_of_mem_toDigits (by decide) (by decide) hc
  -- the digits of a number start with a zero only if there are no others
  have hzero := (Text.toDigits_ofDigits_iff Nat.toDigits_ne_nil hdigits).1 (by rw [Text.ofDigits_map_placeValue])
  have hall : (Nat.toDigits 10 n).all Char.isDigit = true := List.all_eq_true.2 hdigits
  rw [natural?, if_neg, Nat.ofDigitChars_ten_toDigits]
  simp only [hall, List.isEmpty_eq_false_iff.2 Nat.toDigits_ne_nil, Bool.not_true, Bool.or_self, Bool.false_or,
    Bool.and_eq_true, decide_eq_true_eq, not_and]
  intro hhead
  rw [hzero hhead]
  decide

theorem wordValue?_toDigits (n : Nat) : wordValue? (Nat.toDigits 10 n) = some (.int n) := by
  have hdigits : ∀ c ∈ Nat.toDigits 10 n, c.isDigit = true :=
    fun c hc => Nat.isDigit_of_mem_toDigits (by decide) (by decide) hc
  have hnumber := natural?_toDigits n
  generalize Nat.toDigits 10 n = digits at hdigits hnumber
  unfold wordValue?
  split
  case h_5 => rw [hnumber, Option.map_some]
  all_goals exact absurd (hdigits _ List.mem_cons_self) (by decide)

theorem isDelimiter_of_isDigit {c : Char} (h : c.isDigit = true) : isDelimiter c = false := by
  have hrange := Text.toNat_of_isDigit h
  have hne (d : Char) (hd : d.toNat < 0x30 ∨ 0x39 < d.toNat) : (c == d) = false := by
    rw [beq_eq_false_iff_ne]
    rintro rfl
    omega
  simp only [isDelimiter, isBlank, Bool.or_eq_false_iff]
  simp [hne]

theorem isToken_int (i : Int) : IsToken (toString i).toList (.value (.int i)) := by
  have hdigits : ∀ c ∈ Nat.toDigits 10 i.natAbs, isDelimiter c = false :=
    fun c hc => isDelimiter_of_isDigit (Nat.isDigit_of_mem_toDigits (by decide) (by decide) hc)
  rw [Text.toList_toString_int]
  split
  next hi =>
    refine isToken_word (by simp) (List.forall_mem_cons.2 ⟨by decide, hdigits⟩) ?_
    rw [List.singleton_append, wordValue?, natural?_toDigits, Option.map_some]
    congr 2
    omega
  next hi =>
    refine isToken_word Nat.toDigits_ne_nil hdigits ?_
    rw [List.nil_append, wordValue?_toDigits]
    congr 2
    omega

/-! ## Values -/

/-- What a text does to a reading wherever it stands in front of something that ends a word. -/
def Leads (cs : List Char) (r r' : Reading) : Prop :=
  ∀ rest, Ends rest → r.over (cs ++ rest) = r'.over rest

theorem over_of_scanFrom {cs rest : List Char} {t : Token} {r r' : Reading}
    (hscan : scanFrom .between cs = (scanFrom .between rest).map (t :: ·)) (hstep : r.step t = some r') :
    r.over cs = r'.over rest := by
  rw [Reading.over, hscan, Reading.over, Option.bind_map]
  congr 1
  funext tokens
  simp [hstep]

theorem IsToken.leads {cs : List Char} {t : Token} {r r' : Reading} (h : IsToken cs t) (hstep : r.step t = some r') :
    Leads cs r r' :=
  fun rest hrest => over_of_scanFrom (h rest hrest) hstep

theorem leads_word {w : List Char} {v : Value} (hne : w ≠ []) (h : ∀ c ∈ w, isDelimiter c = false)
    (hv : wordValue? w = some v) (frames : List Frame) : Leads w (.value frames) (.done v frames) :=
  (isToken_word hne h hv).leads rfl

/-- A bracket, a comma or a colon is a token whatever stands behind it. -/
theorem over_cons {c : Char} {t : Token} {r r' : Reading} (hc : beginToken c = ([t], .between))
    (hstep : r.step t = some r') (rest : List Char) : r.over (c :: rest) = r'.over rest := by
  refine over_of_scanFrom ?_ hstep
  rw [scanFrom_between_cons, hc]
  rfl

theorem over_space_cons (r : Reading) (rest : List Char) : r.over (' ' :: rest) = r.over rest := by
  have hblank : beginToken ' ' = ([], .between) := rfl
  rw [Reading.over, scanFrom_between_cons, hblank, Reading.over]
  simp

/-- How a list of things is read. One of them leads from `start` to `ended`, and behind it a comma leads to `start`
again and the closing character to `closed`. What was read is kept last one first. -/
structure Listing {α : Type} (start : List α → Reading) (ended : α → List α → Reading) (closed : List α → Reading)
    (close : Char) : Prop where
  ends : ∀ rest, Ends (close :: rest)
  comma : ∀ a before rest, (ended a before).over (',' :: rest) = (start (a :: before)).over rest
  close : ∀ a before rest, (ended a before).over (close :: rest) = (closed (a :: before)).over rest

theorem listing_array (frames : List Frame) : Listing (fun before => .value (.array before :: frames))
    (fun v before => .done v (.array before :: frames)) (fun read => .done (.array read.reverse) frames) ']' where
  ends _ := rfl
  comma _ _ rest := over_cons rfl rfl rest
  close _ _ rest := over_cons rfl rfl rest

theorem listing_object (frames : List Frame) : Listing (fun before => .key before frames)
    (fun m before => .done m.2 (.object before m.1 :: frames)) (fun read => .done (.object read.reverse) frames)
    '}' where
  ends _ := rfl
  comma _ _ rest := over_cons rfl rfl rest
  close _ _ rest := over_cons rfl rfl rest

/-- Texts with commas between them are read one after another. -/
theorem Listing.over_commaSeparated {α : Type} {start closed : List α → Reading} {ended : α → List α → Reading}
    {close : Char} (h : Listing start ended closed close) {text : α → List Char} {a : α} {as : List α}
    (htext : ∀ b ∈ a :: as, ∀ before, Leads (text b) (start before) (ended b before)) (before : List α)
    (rest : List Char) : (start before).over (commaSeparated ((a :: as).map text) ++ close :: rest) =
      (closed ((a :: as).reverse ++ before)).over rest := by
  induction as generalizing a before with
  | nil =>
    have ha := htext a List.mem_cons_self before (close :: rest) (h.ends rest)
    exact ha.trans (h.close a before rest)
  | cons b bs ih =>
    obtain ⟨ha, hbs⟩ := List.forall_mem_cons.1 htext
    have hends (rest : List Char) : Ends (',' :: rest) := rfl
    have hsplit : commaSeparated ((a :: b :: bs).map text) =
      text a ++ ',' :: ' ' :: commaSeparated ((b :: bs).map text) := rfl
    rw [hsplit, List.append_assoc, List.cons_append, ha before _ (hends _), h.comma, List.cons_append, over_space_cons,
      ih hbs]
    simp

namespace Value

/-- Values by induction, where the members of arrays and objects come by membership. -/
@[elab_as_elim]
theorem inductionOn {motive : Value → Prop} (v : Value) (null : motive .null) (bool : ∀ b, motive (.bool b))
    (int : ∀ i, motive (.int i)) (string : ∀ s, motive (.string s))
    (array : ∀ items, (∀ v ∈ items, motive v) → motive (.array items))
    (object : ∀ members, (∀ m ∈ members, motive m.2) → motive (.object members)) : motive v :=
  @Value.rec motive (fun items => ∀ v ∈ items, motive v) (fun members => ∀ m ∈ members, motive m.2)
    (fun m => motive m.2) null bool int string array object (by simp)
    (fun _ _ hv hvs => List.forall_mem_cons.2 ⟨hv, hvs⟩) (by simp) (fun _ _ hm hms => List.forall_mem_cons.2 ⟨hm, hms⟩)
    (fun _ _ hv => hv) v

theorem itemChars_eq_map (items : List Value) : itemChars items = items.map chars := by
  induction items with
  | nil => rfl
  | cons v vs ih => rw [itemChars, ih, List.map_cons]

/-- A member is its key, a colon, a space and its value. -/
def pairChars (m : String × Value) : List Char :=
  quote m.1 ++ ':' :: ' ' :: m.2.chars

theorem memberChars_eq_map (members : List (String × Value)) : memberChars members = members.map pairChars := by
  induction members with
  | nil => rfl
  | cons m ms ih => rw [memberChars, ih, List.map_cons, pairChars]

end Value

theorem leads_pairChars {m : String × Value} (h : ∀ frames, Leads m.2.chars (.value frames) (.done m.2 frames))
    (members : List (String × Value)) (frames : List Frame) :
    Leads (Value.pairChars m) (.key members frames) (.done m.2 (.object members m.1 :: frames)) := by
  intro rest hrest
  have hends (rest : List Char) : Ends (':' :: rest) := rfl
  have hkey : Leads (quote m.1) (.key members frames) (.colon members m.1 frames) :=
    (isToken_quote m.1).leads (by cases members <;> rfl)
  rw [Value.pairChars, List.append_assoc, List.cons_append, hkey _ (hends _), over_cons rfl rfl, List.cons_append,
    over_space_cons, h _ rest hrest]

/-- The text of a value leads from where a value must follow to where it has ended. -/
theorem leads_chars (v : Value) : ∀ frames, Leads v.chars (.value frames) (.done v frames) := by
  induction v using Value.inductionOn with
  | null => exact leads_word (by simp [Value.chars]) (by simp [Value.chars, isDelimiter, isBlank]) rfl
  | bool b =>
    cases b
    · exact leads_word (by simp [Value.chars]) (by simp [Value.chars, isDelimiter, isBlank]) rfl
    · exact leads_word (by simp [Value.chars]) (by simp [Value.chars, isDelimiter, isBlank]) rfl
  | int i => exact fun frames => (isToken_int i).leads rfl
  | string s => exact fun frames => (isToken_quote s).leads rfl
  | array items ih =>
    intro frames rest _
    rw [Value.chars, Value.itemChars_eq_map, List.append_assoc, List.singleton_append, List.cons_append,
      over_cons rfl rfl]
    -- only directly behind its opening bracket can an array be closed without an item
    cases items with
    | nil => exact over_cons rfl rfl rest
    | cons v vs =>
      rw [(listing_array frames).over_commaSeparated fun v hv _ => ih v hv _]
      simp
  | object members ih =>
    intro frames rest _
    rw [Value.chars, Value.memberChars_eq_map, List.append_assoc, List.singleton_append, List.cons_append,
      over_cons rfl rfl]
    cases members with
    | nil => exact over_cons rfl rfl rest
    | cons m ms =>
      rw [(listing_object frames).over_commaSeparated fun m hm before => leads_pairChars (ih m hm) before frames]
      simp

theorem decode_encode (v : Value) : decode v.encode = some v := by
  have hover := leads_chars v [] [] trivial
  rw [List.append_nil] at hover
  rw [decode, Value.encode, String.toList_ofList, hover]
  rfl

end LoanCheck.Json

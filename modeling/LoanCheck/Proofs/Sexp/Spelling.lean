import LoanCheck.Sexp.Reader
import Mathlib.Data.List.Forall2

/-!
# Texts that stand for data

`ReadsAs cs ds` says that the text `cs` reads as the data `ds` wherever it stands : behind anything, and in front of
anything that ends a word. Such texts can be put together. Blanks may stand in front (`ReadsAs.blank_cons`),
texts may follow each other (`ReadsAs.append`), and brackets make a list of what they hold (`ReadsAs.brackets`).
Words, quoted words and strings are where it starts. A text that reads as one datum is read as that datum
(`read_of_readsAs`), and any text is read as its data (`readAll_of_readsAs`).

An apostrophe stays open up to the end of its list, so that the stack of a reading is not what it was after a
quoted datum. What counts is the reading that is left when all apostrophes have ended (`Reading.endQuotes`), and
there a datum is simply added (`Reading.endQuotes_push`).
-/

namespace LoanCheck.Sexp

/-! ## Readings and their apostrophes -/

namespace Reading

/-- Adds data in their order. -/
def pushAll (r : Reading) (ds : List Datum) : Reading :=
  ds.foldl push r

@[simp] theorem pushAll_nil (r : Reading) : r.pushAll [] = r :=
  rfl

@[simp] theorem pushAll_cons (r : Reading) (d : Datum) (ds : List Datum) :
    r.pushAll (d :: ds) = (r.push d).pushAll ds :=
  rfl

theorem pushAll_append (r : Reading) (ds ds' : List Datum) :
    r.pushAll (ds ++ ds') = (r.pushAll ds).pushAll ds' := by
  simp [pushAll]

/-- Data go into the frame that was opened last. -/
theorem pushAll_frame (top : List Datum) (o : Opener) (items : List Datum) (frames : List Frame) :
    ∀ ds : List Datum, pushAll ⟨top, ⟨o, items⟩ :: frames⟩ ds =
      ⟨top, ⟨o, ds.reverse ++ items⟩ :: frames⟩ := by
  intro ds
  induction ds generalizing items with
  | nil => rfl
  | cons d ds ih =>
    rw [pushAll_cons, push, ih]
    simp

end Reading

theorem quoteFirst_cons (d : Datum) {ds : List Datum} (h : ds ≠ []) :
    quoteFirst (d :: ds) = d :: quoteFirst ds := by
  cases ds with
  | nil => exact absurd rfl h
  | cons d' ds => rfl

/-- A datum behind the others is not quoted by an apostrophe that had something to quote already. -/
theorem endQuotes_cons {top : List Datum} (d : Datum) :
    ∀ {frames : List Frame} {inner : List Datum} {r : Reading},
      endQuotes top frames inner = .ok r → endQuotes top frames (d :: inner) = .ok (r.push d)
  | [], inner, r, h => by
    cases h
    rfl
  | ⟨.bracket b, items⟩ :: frames, inner, r, h => by
    cases h
    rfl
  | ⟨.apostrophe position, items⟩ :: frames, inner, r, h => by
    unfold endQuotes at h ⊢
    by_cases hempty : (inner ++ items).isEmpty
    · rw [if_pos hempty] at h
      cases h
    · rw [if_neg hempty] at h
      have hne : inner ++ items ≠ [] := by simpa using hempty
      rw [if_neg (by simp), List.cons_append, quoteFirst_cons d hne]
      exact endQuotes_cons d h

namespace Reading

variable {r base : Reading}

theorem endQuotes_push (h : r.endQuotes = .ok base) (d : Datum) :
    (r.push d).endQuotes = .ok (base.push d) := by
  obtain ⟨top, frames⟩ := r
  cases frames with
  | nil =>
    cases h
    rfl
  | cons f frames =>
    have hmove : (push ⟨top, f :: frames⟩ d).endQuotes = Sexp.endQuotes top (f :: frames) [d] := by
      obtain ⟨_ | _, items⟩ := f <;> rfl
    rw [hmove]
    exact endQuotes_cons d h

/-- An apostrophe quotes the datum that follows it. -/
theorem endQuotes_push_apostrophe (h : r.endQuotes = .ok base) (position : Nat) (d : Datum) :
    ((r.openFrame (.apostrophe position)).push d).endQuotes = .ok (base.push (.quoted d)) :=
  endQuotes_cons (.quoted d) h

theorem endQuotes_bracket (r : Reading) (b : Bracket) :
    (r.openFrame (.bracket b)).endQuotes = .ok (r.openFrame (.bracket b)) :=
  rfl

theorem step_closing (b : Bracket) (text : List Char) {ds : List Datum}
    (h : base.endQuotes = .ok ((r.openFrame (.bracket b)).pushAll ds)) :
    base.step (.closing b text) = .ok (r.push (b.datum ds)) := by
  rw [openFrame, pushAll_frame, List.append_nil] at h
  simp only [step, h, bind, Except.bind]
  simp

end Reading

/-- The tokens add the data to any reading, once its apostrophes have ended. -/
def Reads (tokens : List Token) (ds : List Datum) : Prop :=
  ∀ r base : Reading, r.endQuotes = .ok base →
    ∃ r', tokens.foldlM Reading.step r = .ok r' ∧ r'.endQuotes = .ok (base.pushAll ds)

namespace Reads

variable {tokens tokens' : List Token} {ds ds' : List Datum}

theorem nil : Reads [] [] :=
  fun r _ h => ⟨r, rfl, h⟩

theorem append (h : Reads tokens ds) (h' : Reads tokens' ds') :
    Reads (tokens ++ tokens') (ds ++ ds') := by
  intro r base hr
  obtain ⟨r₁, hfold, hr₁⟩ := h r base hr
  obtain ⟨r₂, hfold', hr₂⟩ := h' r₁ _ hr₁
  refine ⟨r₂, ?_, by rw [Reading.pushAll_append, hr₂]⟩
  rw [List.foldlM_append, hfold]
  exact hfold'

theorem word (text : List Char) : Reads [.word text] [.ofWord (String.ofList text)] :=
  fun _ _ h => ⟨_, rfl, Reading.endQuotes_push h _⟩

theorem string (text : List Char) : Reads [.string text] [.string (String.ofList text)] :=
  fun _ _ h => ⟨_, rfl, Reading.endQuotes_push h _⟩

theorem quotedWord (position : Nat) (text : List Char) :
    Reads [.apostrophe position, .word text] [.quoted (.ofWord (String.ofList text))] :=
  fun _ _ h => ⟨_, rfl, Reading.endQuotes_push_apostrophe h position _⟩

theorem brackets (h : Reads tokens ds) (b : Bracket) (text : List Char) :
    Reads (.opening b :: (tokens ++ [.closing b text])) [b.datum ds] := by
  intro r base hr
  obtain ⟨r', hfold, hr'⟩ := h _ _ (r.endQuotes_bracket b)
  refine ⟨r.push (b.datum ds), ?_, Reading.endQuotes_push hr _⟩
  have hopen : r.step (.opening b) = .ok (r.openFrame (.bracket b)) := rfl
  rw [List.foldlM_cons, hopen]
  show List.foldlM Reading.step (r.openFrame (.bracket b)) (tokens ++ [.closing b text]) = _
  rw [List.foldlM_append, hfold]
  show List.foldlM Reading.step r' [.closing b text] = _
  rw [List.foldlM_cons, Reading.step_closing b text hr']
  rfl

end Reads

/-! ## Words and strings in a text -/

/-- The character may stand inside of a word as it is. -/
def IsPlain (c : Char) : Prop :=
  isDelimiter c = false ∧ c ≠ '\\'

/-- The text is a word of plain characters, and no apostrophe stands in front. -/
structure IsWord (w : List Char) : Prop where
  ne_nil : w ≠ []
  plain : ∀ c ∈ w, IsPlain c
  head : w.head? ≠ some '\''

/-- A word in front of the text has ended. -/
def Ends : List Char → Prop
  | [] => True
  | c :: _ => isDelimiter c = true

theorem Ends.append {cs rest : List Char} (h : Ends cs) (hrest : Ends rest) : Ends (cs ++ rest) := by
  cases cs with
  | nil => exact hrest
  | cons c cs => exact h

theorem ends_flatMap_cons {c : Char} (hc : isDelimiter c = true) (xs : List (List Char)) :
    Ends (xs.flatMap (c :: ·)) := by
  cases xs with
  | nil => trivial
  | cons x xs => exact hc

theorem isDelimiter_of_isAsciiBlank {c : Char} (h : Text.isAsciiBlank c = true) :
    isDelimiter c = true := by
  simp [isDelimiter, h]

theorem beginToken_of_isPlain {c : Char} (h : IsPlain c) (hq : c ≠ '\'') (i : Nat)
    (text : List Char) : beginToken i c text = (none, .word [c]) := by
  obtain ⟨hd, he⟩ := h
  have hblank : ¬ Text.isAsciiBlank c = true := fun hblank => by
    simp [isDelimiter_of_isAsciiBlank hblank] at hd
  unfold beginToken
  split <;> simp_all [isDelimiter]

theorem beginToken_of_isAsciiBlank {c : Char} (h : Text.isAsciiBlank c = true) (i : Nat)
    (text : List Char) : beginToken i c text = (none, .between) := by
  unfold beginToken
  split <;> simp_all [Text.isAsciiBlank]

/-- What the first character between tokens is decides how the scan goes on. -/
theorem scanFrom_between_cons (i : Nat) (c : Char) (cs : List Char) :
    scanFrom .between i (c :: cs) =
      (beginToken i c (c :: cs)).1.toList ++ scanFrom (beginToken i c (c :: cs)).2 (i + 1) cs := by
  rw [scanFrom]
  rcases beginToken i c (c :: cs) with ⟨_ | token, mode⟩ <;> rfl

/-- A word goes on with the next character, unless that is a backslash or ends it. -/
theorem scanFrom_word_cons (collected : List Char) (i : Nat) (c : Char) (cs : List Char) :
    scanFrom (.word collected) i (c :: cs) =
      if c = '\\' then scanFrom (.wordEscape collected) (i + 1) cs
      else if isDelimiter c then .word collected.reverse :: scanFrom .between i (c :: cs)
      else scanFrom (.word (c :: collected)) (i + 1) cs := by
  rw [scanFrom_between_cons, scanFrom]
  rcases beginToken i c (c :: cs) with ⟨_ | token, mode⟩ <;> rfl

theorem scanFrom_word_append {w : List Char} (hw : ∀ c ∈ w, IsPlain c) (collected : List Char)
    (i : Nat) (rest : List Char) : scanFrom (.word collected) i (w ++ rest) =
      scanFrom (.word (w.reverse ++ collected)) (i + w.length) rest := by
  induction w generalizing collected i with
  | nil => rfl
  | cons c w ih =>
    obtain ⟨hd, he⟩ := hw c List.mem_cons_self
    rw [List.cons_append, scanFrom_word_cons, if_neg he, if_neg (by simp [hd]),
      ih fun c hc => hw c (List.mem_cons_of_mem _ hc)]
    simp [Nat.add_assoc, Nat.add_comm 1]

/-- A word ends where the text says so, and the text is scanned on from there. -/
theorem scanFrom_word_of_ends {rest : List Char} (h : Ends rest) (collected : List Char) (i : Nat) :
    scanFrom (.word collected) i rest = .word collected.reverse :: scanFrom .between i rest := by
  cases rest with
  | nil => rfl
  | cons c rest =>
    have hc : isDelimiter c = true := h
    have he : c ≠ '\\' := by
      rintro rfl
      exact absurd hc (by decide)
    rw [scanFrom_word_cons, if_neg he, if_pos hc]

/-- A word is scanned up to what ends it. -/
theorem scanFrom_word {w rest : List Char} (hw : IsWord w) (hrest : Ends rest) (i : Nat) :
    scanFrom .between i (w ++ rest) = .word w :: scanFrom .between (i + w.length) rest := by
  obtain ⟨hne, hplain, hhead⟩ := hw
  cases w with
  | nil => exact absurd rfl hne
  | cons c w =>
    obtain ⟨hc, hplain⟩ := List.forall_mem_cons.1 hplain
    rw [List.cons_append, scanFrom_between_cons, beginToken_of_isPlain hc (by simpa using hhead)]
    show scanFrom (.word [c]) (i + 1) (w ++ rest) = _
    rw [scanFrom_word_append hplain, scanFrom_word_of_ends hrest]
    simp [Nat.add_assoc, Nat.add_comm 1]

/-! ## Texts and data -/

/-- The text reads as the data, wherever it stands in front of something that ends a word. -/
def ReadsAs (cs : List Char) (ds : List Datum) : Prop :=
  ∀ i rest, Ends rest → ∃ tokens j,
    scanFrom .between i (cs ++ rest) = tokens ++ scanFrom .between j rest ∧ Reads tokens ds

namespace ReadsAs

variable {cs cs' : List Char} {ds ds' : List Datum}

theorem nil : ReadsAs [] [] :=
  fun i _ _ => ⟨[], i, rfl, .nil⟩

theorem append (h : ReadsAs cs ds) (h' : ReadsAs cs' ds') (hends : Ends cs') :
    ReadsAs (cs ++ cs') (ds ++ ds') := by
  intro i rest hrest
  obtain ⟨tokens, j, hscan, hreads⟩ := h i (cs' ++ rest) (hends.append hrest)
  obtain ⟨tokens', k, hscan', hreads'⟩ := h' j rest hrest
  refine ⟨tokens ++ tokens', k, ?_, hreads.append hreads'⟩
  rw [List.append_assoc, hscan, hscan', List.append_assoc]

theorem blank_cons {c : Char} (hc : Text.isAsciiBlank c = true) (h : ReadsAs cs ds) :
    ReadsAs (c :: cs) ds := by
  intro i rest hrest
  obtain ⟨tokens, j, hscan, hreads⟩ := h (i + 1) rest hrest
  refine ⟨tokens, j, ?_, hreads⟩
  rw [List.cons_append, scanFrom_between_cons, beginToken_of_isAsciiBlank hc]
  exact hscan

/-- A list in round brackets. -/
theorem brackets (h : ReadsAs cs ds) : ReadsAs ('(' :: (cs ++ [')'])) [.list ds] := by
  intro i rest _
  have hends : Ends (')' :: rest) := rfl
  obtain ⟨tokens, j, hscan, hreads⟩ := h (i + 1) (')' :: rest) hends
  refine ⟨.opening .round :: (tokens ++ [.closing .round (')' :: rest)]), j + 1, ?_,
    hreads.brackets .round _⟩
  rw [List.cons_append, List.append_assoc, List.singleton_append, scanFrom_between_cons]
  show .opening .round :: scanFrom .between (i + 1) (cs ++ ')' :: rest) = _
  rw [hscan, scanFrom_between_cons, List.cons_append, List.append_assoc]
  rfl

theorem word {w : List Char} (hw : IsWord w) : ReadsAs w [.ofWord (String.ofList w)] :=
  fun i _ hrest => ⟨[.word w], i + w.length, scanFrom_word hw hrest i, .word w⟩

theorem quotedWord {w : List Char} (hw : IsWord w) :
    ReadsAs ('\'' :: w) [.quoted (.ofWord (String.ofList w))] := by
  intro i rest hrest
  refine ⟨[.apostrophe i, .word w], i + 1 + w.length, ?_, .quotedWord i w⟩
  rw [List.cons_append, scanFrom_between_cons]
  show .apostrophe i :: scanFrom .between (i + 1) (w ++ rest) = _
  rw [scanFrom_word hw hrest]
  rfl

/-- Texts for single data, each behind a blank. -/
theorem separated {c : Char} (hc : Text.isAsciiBlank c = true) {xs : List (List Char)}
    (h : List.Forall₂ (fun x d => ReadsAs x [d]) xs ds) : ReadsAs (xs.flatMap (c :: ·)) ds := by
  induction h with
  | nil => exact nil
  | cons hx _ ih =>
    exact (hx.blank_cons hc).append ih (ends_flatMap_cons (isDelimiter_of_isAsciiBlank hc) _)

end ReadsAs

/-! ## Whole texts -/

/-- A text that reads as one datum is read as that datum. -/
theorem read_of_readsAs {cs : List Char} {d : Datum} (h : ReadsAs cs [d]) : read cs = .ok d := by
  obtain ⟨tokens, j, hscan, hreads⟩ := h 0 [] trivial
  rw [List.append_nil] at hscan
  obtain ⟨r, hfold, hr⟩ := hreads .empty .empty rfl
  have hscan : scan cs = tokens := by
    have hnil : scanFrom .between j [] = [] := rfl
    rw [scan, hscan, hnil, List.append_nil]
  unfold read
  rw [hscan, hfold]
  show r.finish = .ok d
  rw [Reading.finish, hr]
  rfl

/-- A text is read as its data. -/
theorem readAll_of_readsAs {text : String} {ds : List Datum} (h : ReadsAs text.toList ds) :
    readAll text = .ok ds := by
  have hline : ReadsAs (text.toList ++ ['\n']) (ds ++ []) :=
    h.append (.blank_cons (by decide) .nil) (isDelimiter_of_isAsciiBlank (by decide))
  have hread := read_of_readsAs hline.brackets
  rw [List.append_assoc, List.append_nil] at hread
  unfold readAll
  rw [List.cons_append, ← List.singleton_append (l := [')']), hread]
  rfl

theorem ReadsAs.unique {cs : List Char} {d d' : Datum} (h : ReadsAs cs [d]) (h' : ReadsAs cs [d']) : d = d' := by
  rw [← String.toList_ofList (l := cs)] at h h'
  have heq := (readAll_of_readsAs h).symm.trans (readAll_of_readsAs h')
  cases heq
  rfl

end LoanCheck.Sexp

import LoanCheck.Proofs.Lists
import LoanCheck.Proofs.Text.Numerals
import LoanCheck.Sexp.Reader

/-!
# What reading gives

Every datum that is read was put together from words and strings by brackets and apostrophes, so that a property
of words and strings that brackets and apostrophes pass on (`Inherited`) holds of all that is read
(`Inherited.of_read`). The invariant is that the property holds of all data of a reading, at the top and in every
open frame (`Reading.All`).

Such a property is that all integers can be written (`Datum.Writable`) : an integer comes from a word, and a
numeral has a limited length.
-/

namespace LoanCheck.Sexp

open Results

/-! ## Properties of what is read -/

/-- Words and strings have the property, and brackets and apostrophes pass it on. -/
structure Inherited (P : Datum → Prop) : Prop where
  word : ∀ w, P (.ofWord w)
  string : ∀ text, P (.string text)
  list : ∀ {items}, (∀ d ∈ items, P d) → P (.list items)
  group : ∀ {items}, (∀ d ∈ items, P d) → P (.group items)
  quoted : ∀ {d}, P d → P (.quoted d)

/-- All data of the reading have the property. -/
structure Reading.All (P : Datum → Prop) (r : Reading) : Prop where
  top : ∀ d ∈ r.top, P d
  frames : ∀ f ∈ r.frames, ∀ d ∈ f.items, P d

namespace Reading.All

variable {P : Datum → Prop} {r r' : Reading} {d : Datum}

theorem empty : Reading.All P .empty :=
  ⟨nofun, nofun⟩

theorem push (h : r.All P) (hd : P d) : (r.push d).All P := by
  obtain ⟨top, _ | ⟨f, frames⟩⟩ := r
  · exact ⟨List.forall_mem_cons.2 ⟨hd, h.top⟩, nofun⟩
  · obtain ⟨hf, hframes⟩ := List.forall_mem_cons.1 h.frames
    exact ⟨h.top, List.forall_mem_cons.2 ⟨List.forall_mem_cons.2 ⟨hd, hf⟩, hframes⟩⟩

theorem openFrame (h : r.All P) (o : Opener) : (r.openFrame o).All P :=
  ⟨h.top, List.forall_mem_cons.2 ⟨nofun, h.frames⟩⟩

end Reading.All

namespace Inherited

variable {P : Datum → Prop}

theorem datum (h : Inherited P) (b : Bracket) {items : List Datum} (hitems : ∀ d ∈ items, P d) :
    P (b.datum items) := by
  cases b with
  | round => exact h.list hitems
  | square => exact h.group hitems

theorem quoteFirst (h : Inherited P) {ds : List Datum} (hds : ∀ d ∈ ds, P d) :
    ∀ d ∈ quoteFirst ds, P d := by
  fun_induction Sexp.quoteFirst ds with
  | case1 => exact hds
  | case2 d =>
    intro d' hd'
    cases List.mem_singleton.1 hd'
    exact h.quoted (hds d List.mem_cons_self)
  | case3 d ds _ ih =>
    obtain ⟨hd, hds⟩ := List.forall_mem_cons.1 hds
    exact List.forall_mem_cons.2 ⟨hd, ih hds⟩

theorem endQuotes_frames (h : Inherited P) {top : List Datum} (htop : ∀ d ∈ top, P d) {frames : List Frame}
    (hframes : ∀ f ∈ frames, ∀ d ∈ f.items, P d) {inner : List Datum} (hinner : ∀ d ∈ inner, P d)
    {r : Reading} (hr : Sexp.endQuotes top frames inner = .ok r) : r.All P := by
  fun_induction Sexp.endQuotes top frames inner with
  | case1 inner =>
    cases hr
    exact ⟨List.forall_mem_append.2 ⟨hinner, htop⟩, nofun⟩
  | case2 b items frames inner =>
    cases hr
    obtain ⟨hitems, hframes⟩ := List.forall_mem_cons.1 hframes
    exact ⟨htop, List.forall_mem_cons.2 ⟨List.forall_mem_append.2 ⟨hinner, hitems⟩, hframes⟩⟩
  | case3 => cases hr
  | case4 position items frames inner _ ih =>
    obtain ⟨hitems, hframes⟩ := List.forall_mem_cons.1 hframes
    exact ih hframes (h.quoteFirst (List.forall_mem_append.2 ⟨hinner, hitems⟩)) hr

theorem endQuotes (h : Inherited P) {r r' : Reading} (hr : r.All P) (hend : r.endQuotes = .ok r') :
    r'.All P :=
  h.endQuotes_frames hr.top hr.frames (by simp) hend

theorem step (h : Inherited P) {r r' : Reading} (hr : r.All P) {token : Token}
    (hstep : r.step token = .ok r') : r'.All P := by
  cases token with
  | opening b | apostrophe position =>
    cases hstep
    exact hr.openFrame _
  | word text =>
    cases hstep
    exact hr.push (h.word _)
  | string text =>
    cases hstep
    exact hr.push (h.string _)
  | unclosedString => cases hstep
  | closing b text =>
    obtain ⟨q, hq, hstep⟩ := bind_eq_ok.1 hstep
    have hq := h.endQuotes hr hq
    split at hstep
    next expected items frames hframes =>
      obtain ⟨hitems, hrest⟩ := List.forall_mem_cons.1 (hframes ▸ hq.frames)
      split at hstep
      · cases hstep
        refine Reading.All.push ⟨hq.top, hrest⟩ (h.datum b fun d hd => hitems d ?_)
        exact List.mem_reverse.1 hd
      · cases hstep
    next => cases hstep

theorem foldlM_step (h : Inherited P) {tokens : List Token} {r r' : Reading} (hr : r.All P)
    (hfold : tokens.foldlM Reading.step r = .ok r') : r'.All P := by
  induction tokens generalizing r with
  | nil =>
    cases hfold
    exact hr
  | cons token tokens ih =>
    rw [List.foldlM_cons, bind_eq_ok] at hfold
    obtain ⟨q, hq, hfold⟩ := hfold
    exact ih (h.step hr hq) hfold

/-- All that is read has the property. -/
theorem of_read (h : Inherited P) {text : List Char} {d : Datum} (hread : read text = .ok d) : P d := by
  obtain ⟨r, hfold, hfinish⟩ := bind_eq_ok.1 hread
  have hr := h.foldlM_step .empty hfold
  obtain ⟨q, hq, hfinish⟩ := bind_eq_ok.1 hfinish
  have hq := h.endQuotes hr hq
  split at hfinish
  next => cases hfinish
  next htop _ =>
    cases hfinish
    exact hq.top d (htop ▸ List.mem_cons_self)
  next => cases hfinish

end Inherited

/-! ## Integers -/

/-- All integers of the datum can be written. -/
inductive Datum.Writable : Datum → Prop
  | int {i : Int} (h : Text.isWritable i = true) : Writable (.int i)
  | float (x : Float) : Writable (.float x)
  | symbol (name : String) : Writable (.symbol name)
  | string (text : String) : Writable (.string text)
  | list {items : List Datum} (h : ∀ d ∈ items, Writable d) : Writable (.list items)
  | group {items : List Datum} (h : ∀ d ∈ items, Writable d) : Writable (.group items)
  | quoted {d : Datum} (h : Writable d) : Writable (.quoted d)

theorem Datum.writable_ofWord (w : String) : (Datum.ofWord w).Writable := by
  unfold ofWord
  split
  next i hi => exact .int (Text.isWritable_of_integer hi)
  next =>
    split
    · exact .float _
    · exact .symbol w

theorem Datum.inherited_writable : Inherited Datum.Writable where
  word := Datum.writable_ofWord
  string := .string
  list := .list
  group := .group
  quoted := .quoted

/-- All integers of a text that was read can be written. -/
theorem writable_of_readAll {text : String} {ds : List Datum} (h : readAll text = .ok ds) :
    ∀ d ∈ ds, d.Writable := by
  obtain ⟨d, hread, hlist⟩ := bind_eq_ok.1 h
  have hd := Datum.inherited_writable.of_read hread
  cases hd with
  | list hitems =>
    cases hlist
    exact hitems
  | _ => cases hlist

end LoanCheck.Sexp

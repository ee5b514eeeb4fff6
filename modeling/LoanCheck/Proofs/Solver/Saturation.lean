import LoanCheck.Solver.Budget
import Mathlib.Data.List.Chain
import Mathlib.Data.Nat.Find
import Mathlib.Logic.Function.Iterate
import Mathlib.Order.Bounds.Basic

/-!
# Levels of a saturation

A fact has level `n` over a seed (`Deduction.Level`) if a derivation of height at most `n` ends in it. One
pass leads from the facts of one level to those of the next (`Stage.mem_facts_after`), and finds those that
the level before lacks (`Stage.mem_found_after`).

`Stage.Covers` says all that a course of passes can be : its rounds are the stages one after another, every
one of them adds a fact and was let through by the gate, the course ends where the gate refuses or where a
pass finds nothing, and its passes are those that made a round and that one. `course_covers` is the run lemma, by induction over the course. A course from a seed that
was not stopped ends in the least closed relation over the seed (`isLeast_last_of_covers`).
-/

namespace LoanCheck.Solver

/-- The second relation has all facts of the first one, and one more. -/
def Relation.Grows {α : Type} [Ord α] [Std.TransOrd α] (s t : Relation α) : Prop :=
  (∀ a ∈ s, a ∈ t) ∧ ∃ a ∈ t, a ∉ s

namespace Deduction

variable {α σ ε : Type} [Ord α] [Std.TransOrd α]

/-! ## Levels -/

/-- The fact is derived from the seed in at most `n` rounds of the rules. -/
def Level (d : Deduction α σ) (seed : Relation α) : ℕ → α → Prop
  | 0, a => a ∈ seed
  | n + 1, a => d.Level seed n a ∨ ∃ f g, d.Level seed n f ∧ d.Level seed n g ∧ d.Derives f g a

/-- What two facts with the property give has it too. -/
def Closed (d : Deduction α σ) (P : α → Prop) : Prop :=
  ∀ f g a, P f → P g → d.Derives f g a → P a

variable {d : Deduction α σ} {seed : Relation α}

theorem Level.mono {m n : ℕ} (hmn : m ≤ n) {a : α} (h : d.Level seed m a) : d.Level seed n a := by
  induction hmn with
  | refl => exact h
  | step _ ih => exact Or.inl ih

/-- A closed property of the seed holds at every level. -/
theorem Closed.of_level {P : α → Prop} (hP : d.Closed P) (hseed : ∀ a ∈ seed, P a) :
    ∀ (n : ℕ) {a : α}, d.Level seed n a → P a
  | 0, a, h => hseed a h
  | n + 1, a, h => by
    rcases h with h | ⟨f, g, hf, hg, hd⟩
    · exact hP.of_level hseed n h
    · exact hP f g a (hP.of_level hseed n hf) (hP.of_level hseed n hg) hd

/-- A level that the next one adds nothing to is closed. -/
theorem closed_level {n : ℕ} (h : ∀ a, d.Level seed (n + 1) a → d.Level seed n a) :
    d.Closed (d.Level seed n) :=
  fun f g a hf hg hd => h a (Or.inr ⟨f, g, hf, hg, hd⟩)

/-! ## Stages one after another -/

variable [Std.LawfulEqOrd α] [DecidableEq α]

namespace Stage

/-- The stage after `n` more passes. -/
def after (s : d.Stage) (n : ℕ) : d.Stage :=
  next^[n] s

theorem extend_eq_next (s : d.Stage) {new : List α} (h : s.pass.found.keys = new) :
    s.extend s.pass rfl new h = s.next := by
  subst h
  rfl

theorem after_zero (s : d.Stage) : s.after 0 = s :=
  rfl

theorem next_after (s : d.Stage) (n : ℕ) : (s.after n).next = s.after (n + 1) :=
  (Function.iterate_succ_apply' next n s).symm

theorem after_next (s : d.Stage) (n : ℕ) : s.next.after n = s.after (n + 1) :=
  (Function.iterate_succ_apply next n s).symm

/-- After `n` passes the relation is the `n`-th level. -/
theorem mem_facts_after (h : ∀ a ∈ seed, d.Possible a) (n : ℕ) (a : α) :
    a ∈ ((start d seed h).after n).facts ↔ d.Level seed n a := by
  induction n generalizing a with
  | zero => exact Iff.rfl
  | succ n ih =>
    rw [← next_after, next, mem_facts_extend]
    simp only [ih, Level]
    grind

/-- The next pass finds what the next level adds. -/
theorem mem_found_after (h : ∀ a ∈ seed, d.Possible a) (n : ℕ) (a : α) :
    a ∈ ((start d seed h).after n).pass.found ↔ d.Level seed (n + 1) a ∧ ¬d.Level seed n a := by
  rw [mem_found_pass]
  simp only [mem_facts_after, Level]
  grind

/-- The fresh facts are those of the stage's own level. -/
theorem mem_fresh_after (h : ∀ a ∈ seed, d.Possible a) (n : ℕ) (a : α) :
    a ∈ ((start d seed h).after n).fresh ↔ d.Level seed n a ∧ ∀ m < n, ¬d.Level seed m a := by
  cases n with
  | zero => simp [after_zero, start, Level]
  | succ n =>
    rw [← next_after, next, extend, Std.ExtTreeMap.mem_keys, mem_found_after]
    refine and_congr_right fun _ => ⟨fun hn m hm hlevel => ?_, fun hn => hn n n.lt_succ_self⟩
    exact hn (hlevel.mono (Nat.le_of_lt_succ hm))

/-- Fresh facts stand in ascending order. -/
theorem pairwise_fresh_after (h : ∀ a ∈ seed, d.Possible a) (n : ℕ) :
    ((start d seed h).after n).fresh.Pairwise fun a b => compare a b = .lt := by
  cases n with
  | zero => exact Std.ExtTreeSet.ordered_toList
  | succ n =>
    rw [← next_after]
    exact Std.ExtTreeMap.ordered_keys

/-! ## What a course can be -/

/-- What the pass after `i` others makes of the stage. -/
def round (s : d.Stage) (i : ℕ) : Round α :=
  ⟨(s.after (i + 1)).facts, (s.after i).pass.found⟩

/-- A course that leads from the stage on, the gate being asked with the number of passes made. -/
structure Covers (s : d.Stage) (gate : ℕ → Option ε) (made : ℕ) (c : Course α ε) : Prop where
  /-- The rounds are the stages one after another. -/
  round : ∀ i r, c.rounds[i]? = some r → r = s.round i
  /-- The gate let every pass through. -/
  passed : ∀ i < c.rounds.length, gate (made + i) = none
  /-- Every pass that made a round found a fact. -/
  found : ∀ i < c.rounds.length, (s.after i).pass.found ≠ ∅
  /-- A course that was not stopped ends with a pass that finds nothing. -/
  settled : c.stop = none →
    gate (made + c.rounds.length) = none ∧ (s.after c.rounds.length).pass.found = ∅
  /-- A course is stopped by the gate. -/
  stopped : ∀ reason, c.stop = some reason → gate (made + c.rounds.length) = some reason
  /-- Every round took a pass, and so did finding nothing. -/
  counted : c.passes = made + c.rounds.length + if c.stop.isNone then 1 else 0

theorem Covers.refused {s : d.Stage} {gate : ℕ → Option ε} {made : ℕ} {reason : ε}
    (h : gate made = some reason) : s.Covers gate made ⟨[], some reason, made⟩ where
  round i r hr := by simp at hr
  passed i hi := by simp at hi
  found i hi := by simp at hi
  settled hs := by simp at hs
  stopped reason' hs := by rw [← hs]; exact h
  counted := rfl

theorem Covers.fixpoint {s : d.Stage} {gate : ℕ → Option ε} {made : ℕ} (h : gate made = none)
    (hfound : s.pass.found = ∅) : s.Covers gate made ⟨[], none, made + 1⟩ where
  round i r hr := by simp at hr
  passed i hi := by simp at hi
  found i hi := by simp at hi
  settled _ := ⟨h, hfound⟩
  stopped reason hs := by simp at hs
  counted := rfl

/-- One round more in front of a course from the next stage. -/
theorem Covers.cons {s : d.Stage} {gate : ℕ → Option ε} {made : ℕ} {rest : Course α ε}
    (h : gate made = none) (hfound : s.pass.found ≠ ∅) (hrest : s.next.Covers gate (made + 1) rest) :
    s.Covers gate made ⟨⟨s.next.facts, s.pass.found⟩ :: rest.rounds, rest.stop, rest.passes⟩ where
  round i r hr := by
    cases i with
    | zero => exact (Option.some.inj hr).symm
    | succ i =>
      rw [hrest.round i r (by simpa using hr), Stage.round, after_next, after_next]
      rfl
  passed i hi := by
    cases i with
    | zero => exact h
    | succ i =>
      have := hrest.passed i (by simpa using hi)
      rwa [Nat.add_assoc, Nat.add_comm 1 i] at this
  found i hi := by
    cases i with
    | zero => exact hfound
    | succ i =>
      rw [← after_next]
      exact hrest.found i (by simpa using hi)
  settled hs := by
    have := hrest.settled hs
    rwa [Nat.add_assoc, Nat.add_comm 1, after_next] at this
  stopped reason hs := by
    have := hrest.stopped reason hs
    rwa [Nat.add_assoc, Nat.add_comm 1] at this
  counted := by
    have := hrest.counted
    rwa [Nat.add_assoc made, Nat.add_comm 1] at this

theorem Covers.passes_of_stop_eq_none {s : d.Stage} {gate : ℕ → Option ε} {made : ℕ} {c : Course α ε}
    (hc : s.Covers gate made c) (hstop : c.stop = none) : c.passes = made + c.rounds.length + 1 := by
  rw [hc.counted, hstop]
  rfl

theorem Covers.passes_of_stop {s : d.Stage} {gate : ℕ → Option ε} {made : ℕ} {c : Course α ε}
    (hc : s.Covers gate made c) {stop : ε} (hstop : c.stop = some stop) : c.passes = made + c.rounds.length := by
  rw [hc.counted, hstop]
  rfl

end Stage

/-- A course leads from its first stage on. -/
theorem course_covers (gate : ℕ → Option ε) (made : ℕ) (s : d.Stage) :
    s.Covers gate made (d.course gate made s) := by
  fun_induction course d gate made s with
  | case1 made s reason h => exact .refused h
  | case2 made s h g hnew => exact .fixpoint h (Std.ExtTreeMap.keys_eq_nil_iff.1 hnew)
  | case3 made s h g a more hnew next rest ih =>
    have hnext : next = s.next := s.extend_eq_next hnew
    have hfound : s.pass.found ≠ ∅ := fun h0 =>
      List.cons_ne_nil a more (hnew.symm.trans (Std.ExtTreeMap.keys_eq_nil_iff.2 h0))
    rw [hnext] at ih
    have := Stage.Covers.cons h hfound ih
    rwa [← hnext] at this

/-! ## Courses from a seed -/

section Seed

variable {h : ∀ a ∈ seed, d.Possible a} {gate : ℕ → Option ε} {c : Course α ε}

/-- From the seed on, a course that was not stopped makes one pass more than there are rounds. -/
theorem passes_of_covers (hc : (Stage.start d seed h).Covers gate 0 c) (hstop : c.stop = none) :
    c.passes = c.rounds.length + 1 := by
  rw [hc.passes_of_stop_eq_none hstop, Nat.zero_add]

theorem mem_facts_of_covers (hc : (Stage.start d seed h).Covers gate 0 c) {i : ℕ} {r : Round α}
    (hr : c.rounds[i]? = some r) (a : α) : a ∈ r.facts ↔ d.Level seed (i + 1) a := by
  rw [hc.round i r hr]
  exact Stage.mem_facts_after h (i + 1) a

theorem mem_added_of_covers (hc : (Stage.start d seed h).Covers gate 0 c) {i : ℕ} {r : Round α}
    (hr : c.rounds[i]? = some r) (a : α) :
    a ∈ r.added ↔ d.Level seed (i + 1) a ∧ ¬d.Level seed i a := by
  rw [hc.round i r hr]
  exact Stage.mem_found_after h i a

/-- The relation at the end is the level of as many passes as there are rounds. -/
theorem mem_last_of_covers (hc : (Stage.start d seed h).Covers gate 0 c) (a : α) :
    a ∈ c.last seed ↔ d.Level seed c.rounds.length a := by
  rw [Course.last, List.getLast?_eq_getElem?]
  cases hn : c.rounds.length with
  | zero =>
    rw [List.length_eq_zero_iff.1 hn]
    exact Iff.rfl
  | succ n =>
    obtain ⟨r, hr⟩ : ∃ r, c.rounds[n]? = some r := ⟨_, List.getElem?_eq_getElem (by omega)⟩
    rw [Nat.add_sub_cancel, hr]
    exact mem_facts_of_covers hc hr a

/-- A course that was not stopped ends in a closed relation. -/
theorem closed_last_of_covers (hc : (Stage.start d seed h).Covers gate 0 c) (hstop : c.stop = none) :
    d.Closed (· ∈ c.last seed) := by
  simp only [mem_last_of_covers hc]
  refine closed_level fun a ha => ?_
  by_contra hna
  have hmem := (Stage.mem_found_after h c.rounds.length a).2 ⟨ha, hna⟩
  rw [(hc.settled hstop).2] at hmem
  exact Std.ExtTreeMap.not_mem_empty hmem

theorem mem_last_of_mem_seed (hc : (Stage.start d seed h).Covers gate 0 c) :
    ∀ a ∈ seed, a ∈ c.last seed :=
  fun a ha => (mem_last_of_covers hc a).2 (Level.mono (Nat.zero_le _) ha)

/-- A course that was not stopped ends in the least closed relation over its seed. -/
theorem isLeast_last_of_covers (hc : (Stage.start d seed h).Covers gate 0 c) (hstop : c.stop = none) :
    IsLeast {P : Set α | (∀ a ∈ seed, a ∈ P) ∧ d.Closed (· ∈ P)} {a | a ∈ c.last seed} :=
  ⟨⟨mem_last_of_mem_seed hc, closed_last_of_covers hc hstop⟩,
    fun _ ⟨hseed, hP⟩ a ha => hP.of_level hseed _ ((mem_last_of_covers hc a).1 ha)⟩

/-- No level goes beyond the rounds of a course that was not stopped. -/
theorem level_length_of_covers (hc : (Stage.start d seed h).Covers gate 0 c) (hstop : c.stop = none)
    {n : ℕ} {a : α} (ha : d.Level seed n a) : d.Level seed c.rounds.length a :=
  (mem_last_of_covers hc a).1
    ((closed_last_of_covers hc hstop).of_level (mem_last_of_mem_seed hc) n ha)

/-- The rounds add what the relation at the end has beyond the seed. -/
theorem exists_mem_added_iff (hc : (Stage.start d seed h).Covers gate 0 c) (a : α) :
    (∃ r ∈ c.rounds, a ∈ r.added) ↔ a ∈ c.last seed ∧ a ∉ seed := by
  rw [mem_last_of_covers hc]
  constructor
  · rintro ⟨r, hr, ha⟩
    obtain ⟨i, hi⟩ := List.mem_iff_getElem?.1 hr
    obtain ⟨hnew, hold⟩ := (mem_added_of_covers hc hi a).1 ha
    have hlt : i < c.rounds.length := (List.getElem?_eq_some_iff.1 hi).1
    exact ⟨hnew.mono hlt, fun hseed => hold (Level.mono (Nat.zero_le i) hseed)⟩
  · rintro ⟨hlast, hseed⟩
    -- the pass that adds the fact is the one that leads to its least level
    obtain ⟨n, hn, hbelow⟩ : ∃ n ≤ c.rounds.length, d.Level seed n a ∧ ∀ m < n, ¬d.Level seed m a := by
      classical
      have hex : ∃ n, d.Level seed n a := ⟨_, hlast⟩
      exact ⟨Nat.find hex, Nat.find_min' hex hlast, Nat.find_spec hex, fun m hm => Nat.find_min hex hm⟩
    cases n with
    | zero => exact absurd hbelow.1 hseed
    | succ i =>
      have hi := List.getElem?_eq_getElem (l := c.rounds) (i := i) (by omega)
      exact ⟨_, List.mem_of_getElem? hi,
        (mem_added_of_covers hc hi a).2 ⟨hbelow.1, hbelow.2 i i.lt_succ_self⟩⟩

/-- Every round has a fact more than what was there before. -/
theorem isChain_grows_of_covers (hc : (Stage.start d seed h).Covers gate 0 c) :
    (seed :: c.rounds.map (·.facts)).IsChain Relation.Grows := by
  have hmem : ∀ (i : ℕ) (hi : i < (seed :: c.rounds.map (·.facts)).length) (a : α),
      a ∈ (seed :: c.rounds.map (·.facts))[i] ↔ d.Level seed i a := by
    intro i hi a
    cases i with
    | zero => exact Iff.rfl
    | succ i =>
      rw [List.getElem_cons_succ, List.getElem_map]
      exact mem_facts_of_covers hc (List.getElem?_eq_getElem _) a
  rw [List.isChain_iff_getElem]
  intro i hi
  refine ⟨fun a ha => ?_, ?_⟩
  · rw [hmem] at ha ⊢
    exact ha.mono i.le_succ
  · have hne := hc.found i (by simpa using hi)
    obtain ⟨a, ha⟩ := not_forall_not.1 (mt Std.ExtTreeMap.eq_empty_iff_forall_not_mem.2 hne)
    obtain ⟨hnew, hold⟩ := (Stage.mem_found_after h i a).1 ha
    exact ⟨a, (hmem _ hi a).2 hnew, mt (hmem i _ a).1 hold⟩

end Seed

/-- A gate that never refuses stops no course. -/
theorem Stage.Covers.stop_eq_none {s : d.Stage} {gate : ℕ → Option ε} {made : ℕ} {c : Course α ε}
    (hc : s.Covers gate made c) (hgate : ∀ n, gate n = none) : c.stop = none := by
  cases hstop : c.stop with
  | none => rfl
  | some reason =>
    have := hc.stopped reason hstop
    rw [hgate] at this
    cases this

end Deduction

/-! ## Saturation without limits -/

/-- A budget without limits lets every pass through. -/
theorem Budget.gate_unlimited (clock : Clock) (made : ℕ) : ({} : Budget).gate clock made = none :=
  rfl

theorem Metered.result_of_stop_eq_none {α : Type} [Ord α] {m : Metered α} (relation : Derived)
    (seed : Relation α) (h : m.course.stop = none) :
    m.result relation seed = .ok (m.course.last seed) := by
  rw [Metered.result, h]

end LoanCheck.Solver

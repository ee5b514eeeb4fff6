import LoanCheck.Solver.Relation
import Std.Data.ExtTreeMap

/-!
# Saturation

A deduction says which facts follow from two others. Saturation repeats passes, each over the relation as
it stood when the pass began, until a pass adds nothing. It ends because only finitely many facts are
possible: every pass but the last one adds a fact, and no relation of possible facts is larger than the
deduction's capacity.

A pass goes through the facts that the pass before it has added. It learns them one by one, and finds what
each gives together with the facts known by then. Nothing is lost: what older facts give among themselves is
there already (`Stage.settled`), so a pass adds all that follows from the relation
(`Stage.mem_facts_extend`).

`Deduction.course` asks a gate before every pass, so that a budget can stop it early. The course keeps the
relation after every pass that added something, the reason if it was stopped, and the number of passes made.
-/

namespace LoanCheck.Solver

/-- Facts that follow from facts, with what is kept in mind to find them and a bound on all facts that can
ever follow. -/
structure Deduction (α σ : Type) [Ord α] [Std.TransOrd α] where
  /-- Two facts give a third. A rule with one premise has it twice. -/
  Derives : α → α → α → Prop
  /-- What is kept in mind about no facts. -/
  blank : σ
  /-- What is kept in mind once a fact is known. -/
  learn : σ → α → σ
  /-- What is kept in mind is about the facts of a relation. -/
  Knows : σ → Relation α → Prop
  knows_blank : Knows blank ∅
  knows_learn : ∀ {k s}, Knows k s → ∀ a, Knows (learn k a) (s.insert a)
  /-- What a fact gives together with the known ones, in either place. -/
  give : σ → α → List α
  mem_give : ∀ {k s f}, Knows k s → f ∈ s →
    ∀ a, a ∈ give k f ↔ ∃ g ∈ s, Derives f g a ∨ Derives g f a
  /-- Facts that can occur at all. -/
  Possible : α → Prop
  /-- How many facts can occur. -/
  capacity : Nat
  size_le_capacity : ∀ s : Relation α, (∀ a ∈ s, Possible a) → s.size ≤ capacity
  possible_of_derives : ∀ {f g a}, Derives f g a → Possible f → Possible g → Possible a

/-- A relation after a pass. -/
structure Round (α : Type) [Ord α] where
  facts : Relation α
  /-- The facts that the pass added, each with the fact that gave it first. -/
  added : Std.ExtTreeMap α α compare

/-- How a saturation went. -/
structure Course (α ε : Type) [Ord α] where
  /-- One round for each pass that added a fact. -/
  rounds : List (Round α)
  /-- Why the saturation was stopped; nothing if it reached its fixpoint. -/
  stop : Option ε
  /-- Passes made. A pass that finds nothing to add counts. -/
  passes : Nat

/-- The relation at the end, for a saturation that started from `seed`. -/
def Course.last {α ε : Type} [Ord α] (c : Course α ε) (seed : Relation α) : Relation α :=
  (c.rounds.getLast?.map (·.facts)).getD seed

namespace Deduction

variable {α σ ε : Type} [Ord α] [Std.TransOrd α]

/-! ## One pass -/

/-- What is kept in mind and what has been found in the course of a pass. -/
structure Gathering (α σ : Type) [Ord α] where
  known : σ
  /-- The facts found, each with the fact that gave it first. -/
  found : Std.ExtTreeMap α α compare

/-- Adds a fact that `premise` gives to those found, unless it is in the relation or found already. -/
@[specialize]
def note (facts : Relation α) (premise : α) (found : Std.ExtTreeMap α α compare) (a : α) :
    Std.ExtTreeMap α α compare :=
  if facts.contains a then found else found.insertIfNew a premise

/-- Learns a fact and looks for what it gives beyond the relation. -/
@[specialize]
def gather (d : Deduction α σ) (facts : Relation α) (g : Gathering α σ) (f : α) : Gathering α σ :=
  let known := d.learn g.known f
  ⟨known, (d.give known f).foldl (note facts f) g.found⟩

theorem knows_gather (d : Deduction α σ) (facts : Relation α) {g : Gathering α σ} {old : Relation α}
    (h : d.Knows g.known old) (f : α) : d.Knows (d.gather facts g f).known (old.insert f) :=
  d.knows_learn h f

theorem knows_foldl_gather (d : Deduction α σ) (facts : Relation α) (l : List α)
    {g : Gathering α σ} {old : Relation α} (h : d.Knows g.known old) :
    d.Knows (l.foldl (d.gather facts) g).known (old.insertMany l) := by
  induction l generalizing g old with
  | nil => simpa using h
  | cons b l ih =>
    rw [Std.ExtTreeSet.insertMany_cons]
    exact ih (d.knows_gather facts h b)

/-! ## Stages -/

/-- A relation between two passes. -/
structure Stage (d : Deduction α σ) where
  facts : Relation α
  /-- The facts that the pass before has added; all of them at the start. -/
  fresh : List α
  /-- What is kept in mind about the older facts. -/
  known : σ
  possible : ∀ a ∈ facts, d.Possible a
  /-- What older facts give among themselves is there. -/
  settled : ∃ old, d.Knows known old ∧ facts = old.insertMany fresh ∧
    ∀ f ∈ old, ∀ g ∈ old, ∀ a, d.Derives f g a → a ∈ facts

/-- The next pass. -/
@[specialize]
def Stage.pass {d : Deduction α σ} (s : d.Stage) : Gathering α σ :=
  s.fresh.foldl (d.gather s.facts) ⟨s.known, ∅⟩

theorem Stage.knows_pass {d : Deduction α σ} (s : d.Stage) : d.Knows s.pass.known s.facts := by
  obtain ⟨old, hold, hfacts, -⟩ := s.settled
  have h := d.knows_foldl_gather s.facts s.fresh (g := ⟨s.known, ∅⟩) hold
  rwa [← hfacts] at h

/-! ## What a pass finds -/

variable [Std.LawfulEqOrd α]

theorem mem_foldl_note (facts : Relation α) (premise : α) (l : List α)
    (found : Std.ExtTreeMap α α compare) (a : α) :
    a ∈ l.foldl (note facts premise) found ↔ a ∈ found ∨ a ∈ l ∧ a ∉ facts := by
  induction l generalizing found with
  | nil => simp
  | cons b l ih => grind [note]

theorem mem_found_gather (d : Deduction α σ) (facts : Relation α) {g : Gathering α σ}
    {old : Relation α} (h : d.Knows g.known old) (f a : α) :
    a ∈ (d.gather facts g f).found ↔
      a ∈ g.found ∨ a ∉ facts ∧ ∃ f' ∈ old.insert f, d.Derives f f' a ∨ d.Derives f' f a := by
  have hself : f ∈ old.insert f := by simp
  rw [← d.mem_give (d.knows_learn h f) hself a]
  simp only [gather, mem_foldl_note]
  grind

variable [DecidableEq α]

/-- A pass finds what the listed facts give, among themselves and with those known before. -/
theorem mem_found_foldl_gather (d : Deduction α σ) (facts : Relation α) (l : List α)
    {g : Gathering α σ} {old : Relation α} (h : d.Knows g.known old) (a : α) :
    a ∈ (l.foldl (d.gather facts) g).found ↔ a ∈ g.found ∨ a ∉ facts ∧
      ∃ f ∈ old.insertMany l, ∃ f' ∈ old.insertMany l, (f ∈ l ∨ f' ∈ l) ∧ d.Derives f f' a := by
  induction l generalizing g old with
  | nil => simp
  | cons b l ih =>
    rw [List.foldl_cons, ih (d.knows_gather facts h b), d.mem_found_gather facts h,
      Std.ExtTreeSet.insertMany_cons]
    simp only [Std.ExtTreeSet.mem_insertMany_list, Std.ExtTreeSet.mem_insert, List.contains_iff_mem,
      Std.LawfulEqCmp.compare_eq_iff_eq, List.mem_cons]
    grind

namespace Stage

variable {d : Deduction α σ}

/-- The stage before the first pass. -/
def start (d : Deduction α σ) (s : Relation α) (h : ∀ a ∈ s, d.Possible a) : d.Stage where
  facts := s
  fresh := s.toList
  known := d.blank
  possible := h
  settled := ⟨∅, d.knows_blank, by ext a; simp [Std.ExtTreeSet.mem_insertMany_list], by simp⟩

/-- A pass finds the facts that follow from the relation and are not in it. -/
theorem mem_found_pass (s : d.Stage) (a : α) :
    a ∈ s.pass.found ↔ a ∉ s.facts ∧ ∃ f ∈ s.facts, ∃ g ∈ s.facts, d.Derives f g a := by
  obtain ⟨old, hold, hfacts, hsettled⟩ := s.settled
  have h := d.mem_found_foldl_gather s.facts s.fresh (g := ⟨s.known, ∅⟩) hold a
  rw [← hfacts] at h
  rw [pass, h]
  have hmem : ∀ f, f ∈ s.facts ↔ f ∈ old ∨ f ∈ s.fresh := by
    simp [hfacts, Std.ExtTreeSet.mem_insertMany_list]
  grind

/-- The stage after the next pass, if it found `new`. -/
@[specialize]
def extend (s : d.Stage) (g : Gathering α σ) (h : s.pass = g) (new : List α)
    (hnew : g.found.keys = new) : d.Stage where
  facts := s.facts.insertMany new
  fresh := new
  known := g.known
  possible := fun a ha => by
    rcases Std.ExtTreeSet.mem_insertMany_list.1 ha with ha | ha
    · exact s.possible a ha
    · rw [List.contains_iff_mem, ← hnew, Std.ExtTreeMap.mem_keys, ← h, mem_found_pass] at ha
      obtain ⟨-, f, hf, f', hf', hd⟩ := ha
      exact d.possible_of_derives hd (s.possible f hf) (s.possible f' hf')
  settled := by
    refine ⟨s.facts, h ▸ s.knows_pass, rfl, fun f hf f' hf' a hd => ?_⟩
    rw [Std.ExtTreeSet.mem_insertMany_list, List.contains_iff_mem, ← hnew,
      Std.ExtTreeMap.mem_keys, ← h, mem_found_pass]
    grind

/-- A pass adds all that follows from the relation. -/
theorem mem_facts_extend (s : d.Stage) {g : Gathering α σ} (h : s.pass = g) {new : List α}
    (hnew : g.found.keys = new) (a : α) :
    a ∈ (s.extend g h new hnew).facts ↔
      a ∈ s.facts ∨ ∃ f ∈ s.facts, ∃ f' ∈ s.facts, d.Derives f f' a := by
  rw [extend, Std.ExtTreeSet.mem_insertMany_list, List.contains_iff_mem, ← hnew,
    Std.ExtTreeMap.mem_keys, ← h, mem_found_pass]
  grind

theorem size_lt_size_extend (s : d.Stage) {g : Gathering α σ} (h : s.pass = g) {a : α}
    {more : List α} (hnew : g.found.keys = a :: more) :
    s.facts.size < (s.extend g h (a :: more) hnew).facts.size := by
  have hmem : a ∈ s.pass.found := by simp [h, ← Std.ExtTreeMap.mem_keys, hnew]
  have ha : a ∉ s.facts := ((s.mem_found_pass a).1 hmem).1
  calc s.facts.size < (s.facts.insert a).size := by
        simp [Std.ExtTreeSet.size_insert, ha]
    _ ≤ ((s.facts.insert a).insertMany more).size := Std.ExtTreeSet.size_le_size_insertMany_list
    _ = (s.extend g h (a :: more) hnew).facts.size := by
        simp only [extend, Std.ExtTreeSet.insertMany_cons]

/-- The stage after one more pass. -/
def next (s : d.Stage) : d.Stage :=
  s.extend s.pass rfl s.pass.found.keys rfl

end Stage

/-! ## Courses -/

/-- The passes from a stage on. The gate is asked before each pass, with the number of passes made so
far. -/
@[specialize]
def course (d : Deduction α σ) (gate : Nat → Option ε) (made : Nat) (s : d.Stage) : Course α ε :=
  match gate made with
  | some reason => ⟨[], some reason, made⟩
  | none =>
    let g := s.pass
    match hnew : g.found.keys with
    | [] => ⟨[], none, made + 1⟩
    | a :: more =>
      let next := s.extend g rfl (a :: more) hnew
      let rest := d.course gate (made + 1) next
      ⟨⟨next.facts, g.found⟩ :: rest.rounds, rest.stop, rest.passes⟩
termination_by d.capacity - s.facts.size
decreasing_by
  have hlt := s.size_lt_size_extend rfl hnew
  have hcap := d.size_le_capacity _ (s.extend _ rfl (a :: more) hnew).possible
  omega

end Deduction

end LoanCheck.Solver

import LoanCheck.Solver.Deduction
import LoanCheck.Index

/-!
# The rules of the borrow check

Inclusions are closed under two rules: inclusions at one point compose, and an inclusion is carried
along the steps of the control flow. Requirements, over a given relation of inclusions, are closed under
two more: a loan that a region requires is required by every region it flows into at that point, and a
requirement is carried along the steps unless the loan is killed at the point it leaves.

`Inclusion.Derives` and `Requirement.Derives` are the rules, `Inclusion.give` and `Requirement.give` find
what follows by them, and `inclusionDeduction` and `requirementDeduction` are the two deductions. Nothing is ever derived outside
of the grid of the regions, loans and points that the given facts mention.
-/

namespace LoanCheck.Solver

/-! ## Looking up premises -/

/-- For every point, the points that one step leads to, ascending. -/
abbrev Successors := Index Point Point

def Successors.of (steps : Relation Step) : Successors :=
  Index.ofPairs (steps.toList.map fun e => (e.src, e.dst))

theorem Successors.mem_get {steps : Relation Step} {p q : Point} :
    q ∈ (Successors.of steps).get p ↔ Step.mk p q ∈ steps := by
  simp only [Successors.of, Index.get_ofPairs, List.mem_map, List.mem_filter, decide_eq_true_eq]
  constructor
  · rintro ⟨_, ⟨⟨⟨src, dst⟩, hs, rfl⟩, rfl⟩, rfl⟩
    exact Std.ExtTreeSet.mem_toList.1 hs
  · intro h
    exact ⟨_, ⟨⟨_, Std.ExtTreeSet.mem_toList.2 h, rfl⟩, rfl⟩, rfl⟩

/-- For every region at a point, the regions it flows into there, ascending. -/
abbrev Supersets := Index Place Region

def Supersets.of (inclusions : Relation Inclusion) : Supersets :=
  Index.ofPairs (inclusions.toList.map fun f => (⟨f.sub, f.point⟩, f.sup))

theorem Supersets.mem_get {inclusions : Relation Inclusion} {r r' : Region} {p : Point} :
    r' ∈ (Supersets.of inclusions).get ⟨r, p⟩ ↔ Inclusion.mk r r' p ∈ inclusions := by
  simp only [Supersets.of, Index.get_ofPairs, List.mem_map, List.mem_filter, decide_eq_true_eq]
  constructor
  · rintro ⟨_, ⟨⟨⟨sub, sup, point⟩, hs, rfl⟩, h⟩, rfl⟩
    cases h
    exact Std.ExtTreeSet.mem_toList.1 hs
  · intro h
    exact ⟨_, ⟨⟨_, Std.ExtTreeSet.mem_toList.2 h, rfl⟩, rfl⟩, rfl⟩

/-! ## Grids -/

/-- The facts with one entry from each of three columns. -/
def grid {α : Type} (mk : Int → Int → Int → α) (as bs cs : List Int) : List α :=
  as.flatMap fun a => bs.flatMap fun b => cs.map fun c => mk a b c

theorem mem_grid {α : Type} {mk : Int → Int → Int → α} {as bs cs : List Int} {a b c : Int}
    (ha : a ∈ as) (hb : b ∈ bs) (hc : c ∈ cs) : mk a b c ∈ grid mk as bs cs := by
  simp only [grid, List.mem_flatMap, List.mem_map]
  exact ⟨a, ha, b, hb, c, hc, rfl⟩

theorem length_grid {α : Type} (mk : Int → Int → Int → α) (as bs cs : List Int) :
    (grid mk as bs cs).length = as.length * (bs.length * cs.length) := by
  simp only [grid, List.length_flatMap, List.length_map, List.map_const', List.sum_replicate_nat]

/-- Points that a fact can be carried to: the points of the seed and all targets of steps. -/
def carriedPoints (steps : Relation Step) (seed : List Point) : List Point :=
  seed ++ steps.toList.map (·.dst)

theorem mem_carriedPoints_of_mem_steps {steps : Relation Step} {seed : List Point} {p q : Point}
    (h : Step.mk p q ∈ steps) : q ∈ carriedPoints steps seed :=
  List.mem_append_right _ (List.mem_map.2 ⟨⟨p, q⟩, Std.ExtTreeSet.mem_toList.2 h, rfl⟩)

/-! ## Inclusions -/

/-- The rules for inclusions: composition at a point, and passage along a step, with its one premise
twice. -/
inductive Inclusion.Derives (steps : Relation Step) : Inclusion → Inclusion → Inclusion → Prop where
  | compose {a b c : Region} {p : Point} : Derives steps ⟨a, b, p⟩ ⟨b, c, p⟩ ⟨a, c, p⟩
  | carry {a b : Region} {p q : Point} : ⟨p, q⟩ ∈ steps → Derives steps ⟨a, b, p⟩ ⟨a, b, p⟩ ⟨a, b, q⟩

/-- Inclusions looked up from either side. -/
structure Flows where
  /-- For every region at a point, the regions it flows into there. -/
  into : Supersets
  /-- For every region at a point, the regions that flow into it there. -/
  outOf : Index Place Region

namespace Flows

/-- No inclusions. -/
def empty : Flows := ⟨∅, ∅⟩

/-- One inclusion more. -/
def learn (k : Flows) (f : Inclusion) : Flows where
  into := k.into.put ⟨f.sub, f.point⟩ f.sup
  outOf := k.outOf.put ⟨f.sup, f.point⟩ f.sub

/-- Both sides find the inclusions of a relation. -/
structure Knows (k : Flows) (s : Relation Inclusion) : Prop where
  mem_into : ∀ a b p, b ∈ k.into.get ⟨a, p⟩ ↔ ⟨a, b, p⟩ ∈ s
  mem_outOf : ∀ a b p, a ∈ k.outOf.get ⟨b, p⟩ ↔ ⟨a, b, p⟩ ∈ s

theorem knows_empty : empty.Knows ∅ := by
  constructor <;> simp [empty, Index.get]

theorem Knows.learn {k : Flows} {s : Relation Inclusion} (h : k.Knows s) (f : Inclusion) :
    (k.learn f).Knows (s.insert f) := by
  obtain ⟨sub, sup, point⟩ := f
  constructor
  · intro a b p
    have hold := h.mem_into a b p
    rw [Flows.learn, Index.get_put, Std.ExtTreeSet.mem_insert, Std.LawfulEqCmp.compare_eq_iff_eq]
    split <;> grind
  · intro a b p
    have hold := h.mem_outOf a b p
    rw [Flows.learn, Index.get_put, Std.ExtTreeSet.mem_insert, Std.LawfulEqCmp.compare_eq_iff_eq]
    split <;> grind

end Flows

/-- What an inclusion gives together with known ones: its compositions on either side, and its copies one
step on. -/
def Inclusion.give (next : Successors) (k : Flows) (f : Inclusion) : List Inclusion :=
  (k.into.get ⟨f.sup, f.point⟩).map (fun r => ⟨f.sub, r, f.point⟩) ++
    (k.outOf.get ⟨f.sub, f.point⟩).map (fun r => ⟨r, f.sup, f.point⟩) ++
    (next.get f.point).map (fun q => ⟨f.sub, f.sup, q⟩)

theorem Inclusion.mem_give {steps : Relation Step} {k : Flows} {s : Relation Inclusion} {f : Inclusion}
    (hk : k.Knows s) (hf : f ∈ s) (a : Inclusion) :
    a ∈ f.give (Successors.of steps) k ↔
      ∃ g ∈ s, Inclusion.Derives steps f g a ∨ Inclusion.Derives steps g f a := by
  simp only [Inclusion.give, List.mem_append, List.mem_map, hk.mem_into, hk.mem_outOf,
    Successors.mem_get]
  constructor
  · rintro ((⟨r, hr, rfl⟩ | ⟨r, hr, rfl⟩) | ⟨q, hq, rfl⟩)
    · exact ⟨_, hr, .inl .compose⟩
    · exact ⟨_, hr, .inr .compose⟩
    · exact ⟨f, hf, .inl (.carry hq)⟩
  · rintro ⟨g, hg, h | h⟩
    · cases h with
      | compose => exact .inl (.inl ⟨_, hg, rfl⟩)
      | carry hq => exact .inr ⟨_, hq, rfl⟩
    · cases h with
      | compose => exact .inl (.inr ⟨_, hg, rfl⟩)
      | carry hq => exact .inr ⟨_, hq, rfl⟩

/-- Composition of inclusions and their passage along steps. -/
def inclusionDeduction (steps : Relation Step) (seed : Relation Inclusion) :
    Deduction Inclusion Flows :=
  let subs := seed.toList.map (·.sub)
  let sups := seed.toList.map (·.sup)
  let points := carriedPoints steps (seed.toList.map (·.point))
  let next := Successors.of steps
  { Derives := Inclusion.Derives steps
    blank := .empty
    learn := Flows.learn
    Knows := Flows.Knows
    knows_blank := Flows.knows_empty
    knows_learn := Flows.Knows.learn
    give := fun k f => f.give next k
    mem_give := Inclusion.mem_give
    Possible := fun f => f.sub ∈ subs ∧ f.sup ∈ sups ∧ f.point ∈ points
    capacity := subs.length * (sups.length * points.length)
    size_le_capacity := fun s h => by
      rw [← length_grid Inclusion.mk]
      exact Relation.size_le_length fun a ha => mem_grid (h a ha).1 (h a ha).2.1 (h a ha).2.2
    possible_of_derives := fun h hf hg => by
      cases h with
      | compose => exact ⟨hf.1, hg.2.1, hf.2.2⟩
      | carry hq => exact ⟨hf.1, hf.2.1, mem_carriedPoints_of_mem_steps hq⟩ }

theorem possible_inclusion_of_mem {steps : Relation Step} {seed : Relation Inclusion} :
    ∀ a ∈ seed, (inclusionDeduction steps seed).Possible a := by
  intro a ha
  have ha' := Std.ExtTreeSet.mem_toList.2 ha
  exact ⟨List.mem_map.2 ⟨a, ha', rfl⟩, List.mem_map.2 ⟨a, ha', rfl⟩,
    List.mem_append_left _ (List.mem_map.2 ⟨a, ha', rfl⟩)⟩

/-! ## Requirements -/

/-- The rules for requirements: a loan passes to a region flowed into, and on along a step unless it is
killed. -/
inductive Requirement.Derives (inclusions : Relation Inclusion) (steps : Relation Step)
    (kills : Relation Kill) : Requirement → Requirement → Prop where
  | flow {a b : Region} {l : Loan} {p : Point} :
      ⟨a, b, p⟩ ∈ inclusions → Derives inclusions steps kills ⟨a, l, p⟩ ⟨b, l, p⟩
  | carry {a : Region} {l : Loan} {p q : Point} :
      ⟨p, q⟩ ∈ steps → ⟨l, p⟩ ∉ kills → Derives inclusions steps kills ⟨a, l, p⟩ ⟨a, l, q⟩

/-- What a requirement gives in one pass: the loan is required by the regions flowed into, and at the
next points unless it is killed here. -/
def Requirement.give (into : Supersets) (next : Successors) (kills : Relation Kill)
    (f : Requirement) : List Requirement :=
  (into.get ⟨f.region, f.point⟩).map (fun r => ⟨r, f.loan, f.point⟩) ++
    if ⟨f.loan, f.point⟩ ∈ kills then []
    else (next.get f.point).map (fun q => ⟨f.region, f.loan, q⟩)

theorem Requirement.mem_give {inclusions : Relation Inclusion} {steps : Relation Step}
    {kills : Relation Kill} {f a : Requirement} :
    a ∈ f.give (Supersets.of inclusions) (Successors.of steps) kills ↔
      Requirement.Derives inclusions steps kills f a := by
  simp only [Requirement.give, List.mem_append, List.mem_map, Supersets.mem_get]
  constructor
  · rintro (⟨r, hr, rfl⟩ | h)
    · exact .flow hr
    · split at h
      · simp at h
      · next hk =>
        obtain ⟨q, hq, rfl⟩ := List.mem_map.1 h
        exact .carry (Successors.mem_get.1 hq) hk
  · intro h
    cases h with
    | flow hr => exact .inl ⟨_, hr, rfl⟩
    | carry hq hk =>
      rw [if_neg hk]
      exact .inr (List.mem_map.2 ⟨_, Successors.mem_get.2 hq, rfl⟩)

/-- Passage of requirements along inclusions and steps. A requirement needs no other one to give what it
gives, so nothing is kept in mind. -/
def requirementDeduction (inclusions : Relation Inclusion) (steps : Relation Step)
    (kills : Relation Kill) (seed : Relation Requirement) : Deduction Requirement Unit :=
  let regions := seed.toList.map (·.region) ++ inclusions.toList.map (·.sup)
  let loans := seed.toList.map (·.loan)
  let points := carriedPoints steps (seed.toList.map (·.point))
  let into := Supersets.of inclusions
  let next := Successors.of steps
  { Derives := fun f g a => f = g ∧ Requirement.Derives inclusions steps kills f a
    blank := ()
    learn := fun _ _ => ()
    Knows := fun _ _ => True
    knows_blank := trivial
    knows_learn := fun _ _ => trivial
    give := fun _ f => f.give into next kills
    mem_give := fun _ hf a => by
      rw [Requirement.mem_give]
      constructor
      · exact fun h => ⟨_, hf, .inl ⟨rfl, h⟩⟩
      · rintro ⟨g, -, ⟨-, h⟩ | ⟨rfl, h⟩⟩ <;> exact h
    Possible := fun f => f.region ∈ regions ∧ f.loan ∈ loans ∧ f.point ∈ points
    capacity := regions.length * (loans.length * points.length)
    size_le_capacity := fun s h => by
      rw [← length_grid Requirement.mk]
      exact Relation.size_le_length fun a ha => mem_grid (h a ha).1 (h a ha).2.1 (h a ha).2.2
    possible_of_derives := fun h hf _ => by
      obtain ⟨-, h⟩ := h
      cases h with
      | flow hr =>
        exact ⟨List.mem_append_right _ (List.mem_map.2 ⟨_, Std.ExtTreeSet.mem_toList.2 hr, rfl⟩),
          hf.2.1, hf.2.2⟩
      | carry hq _ => exact ⟨hf.1, hf.2.1, mem_carriedPoints_of_mem_steps hq⟩ }

theorem possible_requirement_of_mem {inclusions : Relation Inclusion} {steps : Relation Step}
    {kills : Relation Kill} {seed : Relation Requirement} :
    ∀ a ∈ seed, (requirementDeduction inclusions steps kills seed).Possible a := by
  intro a ha
  have ha' := Std.ExtTreeSet.mem_toList.2 ha
  exact ⟨List.mem_append_left _ (List.mem_map.2 ⟨a, ha', rfl⟩), List.mem_map.2 ⟨a, ha', rfl⟩,
    List.mem_append_left _ (List.mem_map.2 ⟨a, ha', rfl⟩)⟩

/-! ## Courses -/

/-- Saturation of inclusions from a seed. -/
def inclusionCourse {ε : Type} (steps : Relation Step) (seed : Relation Inclusion)
    (gate : Nat → Option ε) : Course Inclusion ε :=
  (inclusionDeduction steps seed).course gate 0 (.start _ seed possible_inclusion_of_mem)

/-- Saturation of requirements from a seed, over given inclusions. -/
def requirementCourse {ε : Type} (inclusions : Relation Inclusion) (steps : Relation Step)
    (kills : Relation Kill) (seed : Relation Requirement) (gate : Nat → Option ε) :
    Course Requirement ε :=
  (requirementDeduction inclusions steps kills seed).course gate 0
    (.start _ seed possible_requirement_of_mem)

end LoanCheck.Solver

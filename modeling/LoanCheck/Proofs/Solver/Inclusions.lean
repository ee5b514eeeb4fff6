import LoanCheck.Proofs.Solver.Saturation
import LoanCheck.Solver.Rules

/-!
# Saturated inclusions

`Inclusion.Tree` is a derivation of an inclusion from given ones, by composition at a point and by passage
along a step. The levels of the saturation are the heights of these trees (`Inclusion.level_iff_tree`), so the
relation after pass `k` has exactly the inclusions with a tree of height at most `k`, and at the end it is the
least one that is closed under both rules (`inclusionCourse_unlimited`).
-/

namespace LoanCheck.Solver

namespace Inclusion

/-- A derivation, from the inclusions of the seed, that one region flows into another at a point. -/
inductive Tree (steps : Relation Step) (seed : Relation Inclusion) : Region → Region → Point → Type where
  | given {a b : Region} {p : Point} : ⟨a, b, p⟩ ∈ seed → Tree steps seed a b p
  | compose {a b c : Region} {p : Point} :
      Tree steps seed a b p → Tree steps seed b c p → Tree steps seed a c p
  | carry {a b : Region} {p q : Point} :
      ⟨p, q⟩ ∈ steps → Tree steps seed a b p → Tree steps seed a b q

/-- The number of rules on the longest branch. -/
def Tree.height {steps : Relation Step} {seed : Relation Inclusion} {a b : Region} {p : Point} :
    Tree steps seed a b p → ℕ
  | given _ => 0
  | compose t u => max t.height u.height + 1
  | carry _ t => t.height + 1

/-- Inclusions at one point compose, and pass along every step. -/
structure Closed (steps : Relation Step) (P : Set Inclusion) : Prop where
  compose : ∀ {a b c p}, ⟨a, b, p⟩ ∈ P → ⟨b, c, p⟩ ∈ P → ⟨a, c, p⟩ ∈ P
  carry : ∀ {a b p q}, ⟨p, q⟩ ∈ steps → ⟨a, b, p⟩ ∈ P → ⟨a, b, q⟩ ∈ P

variable {steps : Relation Step} {seed : Relation Inclusion}

theorem closed_deduction_iff {P : Set Inclusion} :
    (inclusionDeduction steps seed).Closed (· ∈ P) ↔ Closed steps P := by
  constructor
  · intro h
    exact ⟨fun hab hbc => h _ _ _ hab hbc .compose, fun hs hab => h _ _ _ hab hab (.carry hs)⟩
  · intro h f g a hf hg hd
    cases hd with
    | compose => exact h.compose hf hg
    | carry hs => exact h.carry hs hf

/-- A tree of height at most `n` stays within the first `n` levels. -/
theorem Tree.level {a b : Region} {p : Point} (t : Tree steps seed a b p) {n : ℕ}
    (h : t.height ≤ n) : (inclusionDeduction steps seed).Level seed n ⟨a, b, p⟩ := by
  induction t generalizing n with
  | given hf => exact Deduction.Level.mono n.zero_le hf
  | compose t u iht ihu =>
    cases n with
    | zero => simp [height] at h
    | succ n =>
      have hmax : max t.height u.height ≤ n := Nat.le_of_succ_le_succ h
      exact Or.inr ⟨_, _, iht ((le_max_left _ _).trans hmax), ihu ((le_max_right _ _).trans hmax),
        .compose⟩
  | carry hs t ih =>
    cases n with
    | zero => simp [height] at h
    | succ n =>
      have hf := ih (Nat.le_of_succ_le_succ h)
      exact Or.inr ⟨_, _, hf, hf, .carry hs⟩

theorem level_iff_tree (n : ℕ) (f : Inclusion) :
    (inclusionDeduction steps seed).Level seed n f ↔
      ∃ t : Tree steps seed f.sub f.sup f.point, t.height ≤ n := by
  refine ⟨fun h => ?_, fun ⟨t, ht⟩ => t.level ht⟩
  induction n generalizing f with
  | zero => exact ⟨.given h, le_rfl⟩
  | succ n ih =>
    rcases h with h | ⟨f₁, f₂, h₁, h₂, hd⟩
    · obtain ⟨t, ht⟩ := ih f h
      exact ⟨t, ht.trans n.le_succ⟩
    · obtain ⟨t, ht⟩ := ih f₁ h₁
      obtain ⟨u, hu⟩ := ih f₂ h₂
      cases hd with
      | compose => exact ⟨.compose t u, Nat.succ_le_succ (max_le ht hu)⟩
      | carry hs => exact ⟨.carry hs t, Nat.succ_le_succ ht⟩

end Inclusion

/-! ## The course without limits -/

section Course

variable {ε : Type} {steps : Relation Step} {seed : Relation Inclusion} {gate : ℕ → Option ε}

theorem inclusionCourse_covers :
    (Deduction.Stage.start (inclusionDeduction steps seed) seed possible_inclusion_of_mem).Covers
      gate 0 (inclusionCourse steps seed gate) :=
  Deduction.course_covers gate 0 _

/-- A course of inclusions that was not stopped ends in the least closed relation over its seed. -/
theorem isLeast_last_inclusionCourse (h : (inclusionCourse steps seed gate).stop = none) :
    IsLeast {P : Set Inclusion | (∀ f ∈ seed, f ∈ P) ∧ Inclusion.Closed steps P}
      {f | f ∈ (inclusionCourse steps seed gate).last seed} := by
  simp only [← @Inclusion.closed_deduction_iff steps seed]
  exact Deduction.isLeast_last_of_covers inclusionCourse_covers h

end Course

/-- Saturation of inclusions without limits. It is never stopped; the relation after pass `k + 1` has the
inclusions with a tree of height at most `k + 1`; every round adds to the relation before it; one pass more
than there are rounds is counted; and the result is the least closed relation over the seed, the seed itself
if there is no round. -/
theorem inclusionCourse_unlimited (steps : Relation Step) (seed : Relation Inclusion) (clock : Clock) :
    let m := metered {} clock (inclusionCourse steps seed)
    m.course.stop = none ∧
      (∀ k r, m.course.rounds[k]? = some r →
        ∀ f, f ∈ r.facts ↔
          ∃ t : Inclusion.Tree steps seed f.sub f.sup f.point, t.height ≤ k + 1) ∧
      (seed :: m.course.rounds.map (·.facts)).IsChain Relation.Grows ∧
      m.course.passes = m.course.rounds.length + 1 ∧
      ∃ s, m.result .inclusions seed = .ok s ∧
        IsLeast {P : Set Inclusion | (∀ f ∈ seed, f ∈ P) ∧ Inclusion.Closed steps P} {f | f ∈ s} ∧
        (m.course.rounds = [] → s = seed) := by
  intro m
  have hcovers : (Deduction.Stage.start (inclusionDeduction steps seed) seed
      possible_inclusion_of_mem).Covers (({} : Budget).gate (clock.advance 1)) 0 m.course :=
    inclusionCourse_covers
  have hstop : m.course.stop = none := hcovers.stop_eq_none fun n => Budget.gate_unlimited _ n
  refine ⟨hstop, fun k r hr f => ?_, Deduction.isChain_grows_of_covers hcovers,
    Deduction.passes_of_covers hcovers hstop, _, Metered.result_of_stop_eq_none _ _ hstop,
    isLeast_last_inclusionCourse hstop, fun hnil => ?_⟩
  · rw [Deduction.mem_facts_of_covers hcovers hr, Inclusion.level_iff_tree]
  · rw [Course.last, hnil]
    rfl

end LoanCheck.Solver

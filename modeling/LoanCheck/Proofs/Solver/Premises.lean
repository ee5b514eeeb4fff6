import LoanCheck.Proofs.Solver.Requirements
import LoanCheck.Solver.Provenance

/-!
# Recorded premises

Every round of a saturation of requirements keeps, for each requirement it added, the one that gave it first.
A pass goes through the requirements of its own distance in ascending order, so the first to give is the least
(`Requirement.exists_premise`). `Provenance.recordRounds` never replaces an entry, and no two rounds add the same
requirement, so the record has the entry of the round that added it (`getElem?_recordRounds_of_covers`).

`requirementCourse_unlimited` puts together what saturation does without limits.
-/

namespace LoanCheck.Solver

/-! ## What a pass keeps -/

namespace Deduction

variable {α σ : Type} [Ord α] [Std.TransOrd α] [Std.LawfulEqOrd α] [DecidableEq α]

theorem getElem?_foldl_note (facts : Relation α) (premise : α) (l : List α)
    (found : Std.ExtTreeMap α α compare) (a : α) :
    (l.foldl (note facts premise) found)[a]? =
      found[a]?.or (if a ∈ l ∧ a ∉ facts then some premise else none) := by
  induction l generalizing found with
  | nil => simp
  | cons b l ih =>
    rw [List.foldl_cons, ih, note]
    by_cases hb : b ∈ facts
    · grind
    · rw [if_neg (by simpa using hb), Std.ExtTreeMap.getElem?_insertIfNew]
      by_cases hba : b = a
      · subst hba
        cases hfound : found[b]? with
        | none => simp [hb, Std.ExtTreeMap.mem_iff_isSome_getElem?, hfound]
        | some _ => simp [Std.ExtTreeMap.mem_iff_isSome_getElem?, hfound]
      · simp [hba, Ne.symm hba]

end Deduction

namespace Requirement

variable {inclusions : Relation Inclusion} {steps : Relation Step} {kills : Relation Kill}
  {seed : Relation Requirement}

/-- The list of what a requirement gives. -/
abbrev given (inclusions : Relation Inclusion) (steps : Relation Step) (kills : Relation Kill)
    (f : Requirement) : List Requirement :=
  f.give (Supersets.of inclusions) (Successors.of steps) kills

/-- A pass keeps the first of the listed requirements that gives a new one. -/
theorem getElem?_foldl_gather (facts : Relation Requirement) (l : List Requirement)
    (g : Deduction.Gathering Requirement Unit) (a : Requirement) :
    (l.foldl ((requirementDeduction inclusions steps kills seed).gather facts) g).found[a]? =
      g.found[a]?.or (l.find? fun f => a ∈ given inclusions steps kills f ∧ a ∉ facts) := by
  induction l generalizing g with
  | nil => simp
  | cons f l ih =>
    rw [List.foldl_cons, ih, Deduction.gather, Deduction.getElem?_foldl_note, Option.or_assoc,
      List.find?_cons]
    have hgive : (requirementDeduction inclusions steps kills seed).give
        ((requirementDeduction inclusions steps kills seed).learn g.known f) f =
          given inclusions steps kills f := rfl
    rw [hgive]
    by_cases h : a ∈ given inclusions steps kills f ∧ a ∉ facts <;> simp [h]

/-- A pass derives each new requirement from the least one of the distance before that gives it. -/
theorem exists_premise {n : ℕ} {f : Requirement}
    (hf : Distance inclusions steps kills seed f (n + 1)) :
    ∃ g, ((firstStage inclusions steps kills seed).after n).pass.found[f]? = some g ∧
      Distance inclusions steps kills seed g n ∧ Derives inclusions steps kills g f ∧
      ∀ h, Distance inclusions steps kills seed h n → Derives inclusions steps kills h f →
        (compare g h).isLE := by
  generalize hs : (firstStage inclusions steps kills seed).after n = s
  have hfresh : ∀ h, h ∈ s.fresh ↔ Distance inclusions steps kills seed h n := by
    intro h
    rw [← hs, Deduction.Stage.mem_fresh_after, distance_iff_level]
  have hsorted : s.fresh.Pairwise fun a b => compare a b = .lt := by
    rw [← hs]
    exact Deduction.Stage.pairwise_fresh_after _ n
  obtain ⟨hlevel, hbelow⟩ := (distance_iff_level _ _).1 hf
  have hnew : f ∉ s.facts := by
    rw [← hs, Deduction.Stage.mem_facts_after]
    exact hbelow n n.lt_succ_self
  have hfound : f ∈ s.pass.found := by
    rw [← hs, Deduction.Stage.mem_found_after]
    exact ⟨hlevel, hbelow n n.lt_succ_self⟩
  obtain ⟨g, hg⟩ := Option.isSome_iff_exists.1 (Std.ExtTreeMap.mem_iff_isSome_getElem?.1 hfound)
  refine ⟨g, hg, ?_⟩
  rw [Deduction.Stage.pass, getElem?_foldl_gather, Std.ExtTreeMap.getElem?_empty, Option.none_or,
    List.find?_eq_some_iff_append] at hg
  obtain ⟨hgive, before, behind, hsplit, hbefore⟩ := hg
  simp only [hnew, not_false_eq_true, and_true, decide_eq_true_eq, Bool.not_eq_true',
    decide_eq_false_iff_not, mem_give] at hgive hbefore
  refine ⟨(hfresh g).1 (by simp [hsplit]), hgive, fun h hdist hd => ?_⟩
  have hmem := (hfresh h).2 hdist
  rw [hsplit] at hmem hsorted
  rcases List.mem_append.1 hmem with hmem | hmem
  · exact absurd hd (hbefore h hmem)
  · rcases List.mem_cons.1 hmem with rfl | hmem
    · simp
    · have hlt := (List.pairwise_cons.1 (List.pairwise_append.1 hsorted).2.1).1 h hmem
      rw [hlt]
      rfl

end Requirement

/-! ## The record -/

namespace Provenance

theorem getElem?_foldl_record (l : List (Requirement × Requirement)) (p : Provenance)
    (f : Requirement) :
    (l.foldl (fun p e => p.record e.1 e.2) p)[f]? =
      p[f]?.or ((l.find? (compare ·.1 f == .eq)).map (·.2)) := by
  induction l generalizing p with
  | nil => simp
  | cons e l ih =>
    rw [List.foldl_cons, ih, record, Std.ExtTreeMap.getElem?_insertIfNew, List.find?_cons]
    by_cases h : e.1 = f
    · grind
    · have hne : (compare e.1 f == .eq) = false := by simpa using h
      simp [h, hne]

theorem getElem?_recordRound (p : Provenance) (r : Round Requirement) (f : Requirement) :
    (p.recordRound r)[f]? = p[f]?.or r.added[f]? := by
  rw [recordRound, Std.ExtTreeMap.foldl_eq_foldl_toList, getElem?_foldl_record]
  congr 1
  cases h : r.added.toList.find? (compare ·.1 f == .eq) with
  | none =>
    rw [Std.ExtTreeMap.find?_toList_eq_none_iff_not_mem] at h
    simp [h]
  | some e =>
    have := (Std.ExtTreeMap.find?_toList_eq_some_iff_getKey?_eq_some_and_getElem?_eq_some.1 h).2
    rw [this]
    rfl

theorem getElem?_recordRounds (p : Provenance) (rounds : List (Round Requirement)) (f : Requirement) :
    (p.recordRounds rounds)[f]? = p[f]?.or (rounds.findSome? (·.added[f]?)) := by
  induction rounds generalizing p with
  | nil => simp [recordRounds]
  | cons r rounds ih =>
    rw [recordRounds, List.foldl_cons, ← recordRounds, ih, getElem?_recordRound, Option.or_assoc,
      List.findSome?_cons]
    cases r.added[f]? <;> rfl

theorem mem_recordRounds_empty (rounds : List (Round Requirement)) (f : Requirement) :
    f ∈ recordRounds ∅ rounds ↔ ∃ r ∈ rounds, f ∈ r.added := by
  rw [Std.ExtTreeMap.mem_iff_isSome_getElem?, getElem?_recordRounds]
  simp [List.findSome?_isSome_iff]

end Provenance

section Course

variable {ε : Type} {inclusions : Relation Inclusion} {steps : Relation Step} {kills : Relation Kill}
  {seed : Relation Requirement} {gate : ℕ → Option ε} {c : Course Requirement ε}

/-- The record has the premise that the pass kept which added the requirement. -/
theorem getElem?_recordRounds_of_covers
    (hc : (Requirement.firstStage inclusions steps kills seed).Covers gate 0 c) {n : ℕ}
    {f : Requirement}
    (hf : Requirement.Distance inclusions steps kills seed f (n + 1)) (hn : n < c.rounds.length) :
    (Provenance.recordRounds ∅ c.rounds)[f]? =
      ((Requirement.firstStage inclusions steps kills seed).after n).pass.found[f]? := by
  obtain ⟨g, hg, -⟩ := Requirement.exists_premise hf
  obtain ⟨r, hr⟩ : ∃ r, c.rounds[n]? = some r := ⟨_, List.getElem?_eq_getElem hn⟩
  rw [hg, Provenance.getElem?_recordRounds, Std.ExtTreeMap.getElem?_empty, Option.none_or,
    List.findSome?_eq_some_iff]
  refine ⟨c.rounds.take n, r, c.rounds.drop (n + 1), ?_, ?_, fun r' hr' => ?_⟩
  · obtain ⟨hlt, rfl⟩ := List.getElem?_eq_some_iff.1 hr
    rw [← List.drop_eq_getElem_cons, List.take_append_drop]
  · rw [hc.round n r hr]
    exact hg
  · -- a round before this one adds nothing of this distance
    obtain ⟨i, hi⟩ := List.mem_iff_getElem?.1 hr'
    rw [List.getElem?_take] at hi
    have hlt : i < n := by
      by_contra hge
      simp [hge] at hi
    rw [if_pos hlt] at hi
    refine Std.ExtTreeMap.getElem?_eq_none fun hmem => ?_
    exact ((Requirement.distance_iff_level _ _).1 hf).2 (i + 1) (by omega)
      ((Deduction.mem_added_of_covers hc hi f).1 hmem).1

end Course

/-- Saturation of requirements without limits, over any inclusions. It is never stopped; the relation after
pass `k + 1` has the requirements at distance at most `k + 1`; every round adds to the relation before it; one
pass more than there are rounds is counted; and the result is the least closed relation over the seed. The
premises recorded on the way are those of the derived requirements that are not in the seed, and the premise
of one at distance `n + 1` is the least at distance `n` that derives it in one step. -/
theorem requirementCourse_unlimited (inclusions : Relation Inclusion) (steps : Relation Step)
    (kills : Relation Kill) (seed : Relation Requirement) (clock : Clock) :
    let m := metered {} clock (requirementCourse inclusions steps kills seed)
    let premises := Provenance.recordRounds ∅ m.course.rounds
    m.course.stop = none ∧
      (∀ k r, m.course.rounds[k]? = some r → ∀ f, f ∈ r.facts ↔
        ∃ n ≤ k + 1, Requirement.Distance inclusions steps kills seed f n) ∧
      (seed :: m.course.rounds.map (·.facts)).IsChain Relation.Grows ∧
      m.course.passes = m.course.rounds.length + 1 ∧
      ∃ s, m.result .requirements seed = .ok s ∧
        IsLeast {P : Set Requirement | (∀ f ∈ seed, f ∈ P) ∧
          Requirement.Closed inclusions steps kills P} {f | f ∈ s} ∧
        (∀ f, f ∈ premises ↔ f ∈ s ∧ f ∉ seed) ∧
        ∀ f n, Requirement.Distance inclusions steps kills seed f (n + 1) →
          ∃ g, premises[f]? = some g ∧ Requirement.Distance inclusions steps kills seed g n ∧
            Requirement.Derives inclusions steps kills g f ∧
            ∀ h, Requirement.Distance inclusions steps kills seed h n →
              Requirement.Derives inclusions steps kills h f → (compare g h).isLE := by
  intro m premises
  have hcovers : (Requirement.firstStage inclusions steps kills seed).Covers
      (({} : Budget).gate (clock.advance 1)) 0 m.course :=
    requirementCourse_covers
  have hstop : m.course.stop = none := hcovers.stop_eq_none fun n => Budget.gate_unlimited _ n
  refine ⟨hstop, fun k r hr f => ?_, Deduction.isChain_grows_of_covers hcovers,
    Deduction.passes_of_covers hcovers hstop, _, Metered.result_of_stop_eq_none _ _ hstop,
    isLeast_last_requirementCourse hstop, fun f => ?_, fun f n hf => ?_⟩
  · rw [Deduction.mem_facts_of_covers hcovers hr, Requirement.level_iff_distance]
  · rw [Provenance.mem_recordRounds_empty, Deduction.exists_mem_added_iff hcovers]
  · obtain ⟨hlevel, hbelow⟩ := (Requirement.distance_iff_level _ _).1 hf
    have hn : n < m.course.rounds.length := by
      by_contra hge
      exact hbelow _ (by omega) (Deduction.level_length_of_covers hcovers hstop hlevel)
    obtain ⟨g, hg, hpremise⟩ := Requirement.exists_premise hf
    exact ⟨g, (getElem?_recordRounds_of_covers hcovers hf hn).trans hg, hpremise⟩

end LoanCheck.Solver

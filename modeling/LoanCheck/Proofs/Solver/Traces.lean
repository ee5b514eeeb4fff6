import LoanCheck.Proofs.Solver.Premises
import LoanCheck.Proofs.Solver.Verdict

/-!
# Traces of requirements

Saturation without limits records a premise for every requirement that is not a borrow
(`Inputs.mem_premises`): the least requirement, one step nearer to the borrows, that gives it
(`Inputs.exists_premise`). Each step back from a requirement at distance `n` so comes upon a new entry of
the record, and the record has at least `n` of them (`Inputs.distance_le_size`). The bound on the length of
a trace is never met: a trace goes from premise to premise (`Inputs.trace_eq_cons`) until it is at a borrow
(`Inputs.trace_of_mem_borrows`).
-/

namespace LoanCheck.Solver

namespace Inputs

/-- The premises that saturation without limits records. -/
def premises (i : Inputs) : Provenance :=
  Provenance.recordRounds ∅ i.requirementCourse.rounds

/-- The least number of steps that derive the requirement from the borrows, over saturated inclusions. -/
def Distance (i : Inputs) (f : Requirement) (n : ℕ) : Prop :=
  Requirement.Distance i.inclusionClosure i.steps i.kills i.borrows f n

/-- One requirement gives another, over saturated inclusions. -/
def Gives (i : Inputs) (f g : Requirement) : Prop :=
  Requirement.Derives i.inclusionClosure i.steps i.kills f g

variable {i : Inputs} {f g : Requirement} {n : ℕ}

/-! ## Distances -/

theorem Distance.unique {m : ℕ} (hm : i.Distance f m) (hn : i.Distance f n) : m = n :=
  IsLeast.unique hm hn

theorem distance_zero_iff : i.Distance f 0 ↔ f ∈ i.borrows := by
  rw [Distance, Requirement.distance_iff_level]
  exact ⟨fun h => h.1, fun h => ⟨h, fun m hm => absurd hm (Nat.not_lt_zero m)⟩⟩

/-- The saturated requirements are those that have a distance. -/
theorem mem_requirementClosure_iff_distance : f ∈ i.requirementClosure ↔ ∃ n, i.Distance f n := by
  rw [requirementClosure, Deduction.mem_last_of_covers i.covers_requirementCourse]
  constructor
  · intro h
    obtain ⟨n, -, hn⟩ := (Requirement.level_iff_distance _ f).1 h
    exact ⟨n, hn⟩
  · rintro ⟨n, hn⟩
    exact Deduction.level_length_of_covers i.covers_requirementCourse i.stop_requirementCourse
      ((Requirement.distance_iff_level n f).1 hn).1

/-! ## Premises -/

/-- A premise is recorded for the derived requirements that are no borrows. -/
theorem mem_premises : f ∈ i.premises ↔ f ∈ i.requirementClosure ∧ f ∉ i.borrows := by
  rw [premises, Provenance.mem_recordRounds_empty,
    Deduction.exists_mem_added_iff i.covers_requirementCourse]
  rfl

theorem premises_of_mem_borrows (hf : f ∈ i.borrows) : i.premises[f]? = none :=
  Std.ExtTreeMap.getElem?_eq_none fun hmem => (mem_premises.1 hmem).2 hf

/-- The premise of a requirement is the least one, one step nearer to the borrows, that gives it. -/
theorem exists_premise (hf : i.Distance f (n + 1)) :
    ∃ g, i.premises[f]? = some g ∧ i.Distance g n ∧ i.Gives g f ∧
      ∀ h, i.Distance h n → i.Gives h f → (compare g h).isLE := by
  obtain ⟨hlevel, hbelow⟩ := (Requirement.distance_iff_level _ _).1 hf
  have hn : n < i.requirementCourse.rounds.length := by
    by_contra hge
    exact hbelow _ (by omega) (Deduction.level_length_of_covers i.covers_requirementCourse
      i.stop_requirementCourse hlevel)
  obtain ⟨g, hg, hpremise⟩ := Requirement.exists_premise hf
  exact ⟨g, (getElem?_recordRounds_of_covers i.covers_requirementCourse hf hn).trans hg, hpremise⟩

/-- On the way back from a requirement there is an entry of the record at every distance but zero. -/
theorem exists_entries (hf : i.Distance f n) :
    ∃ entries : List Requirement, entries.length = n ∧ entries.Nodup ∧
      ∀ g ∈ entries, g ∈ i.premises ∧ ∃ m ≤ n, i.Distance g m := by
  induction n generalizing f with
  | zero => exact ⟨[], rfl, List.nodup_nil, by simp⟩
  | succ n ih =>
    obtain ⟨g, hg, hdist, -⟩ := exists_premise hf
    obtain ⟨entries, hlength, hnodup, hentries⟩ := ih hdist
    have hnew : f ∉ entries := by
      intro hmem
      obtain ⟨-, m, hm, hdist'⟩ := hentries f hmem
      have := hdist'.unique hf
      omega
    refine ⟨f :: entries, by simp [hlength], List.nodup_cons.2 ⟨hnew, hnodup⟩, fun h hmem => ?_⟩
    rcases List.mem_cons.1 hmem with rfl | hmem
    · exact ⟨Std.ExtTreeMap.mem_iff_isSome_getElem?.2 (by simp [hg]), n + 1, le_rfl, hf⟩
    · obtain ⟨hentry, m, hm, hdist'⟩ := hentries h hmem
      exact ⟨hentry, m, hm.trans n.le_succ, hdist'⟩

theorem distance_le_size (hf : i.Distance f n) : n ≤ i.premises.size := by
  obtain ⟨entries, hlength, hnodup, hentries⟩ := exists_entries hf
  rw [← hlength, ← Std.ExtTreeMap.length_keys]
  exact hnodup.length_le_of_subset fun g hg => Std.ExtTreeMap.mem_keys.2 (hentries g hg).1

/-! ## Traces -/

/-- The trace of a requirement at distance `n` is complete after `n` steps. -/
theorem traceWithin_eq (hf : i.Distance f n) {k : ℕ} (hk : n ≤ k) :
    i.premises.traceWithin f k = i.premises.traceWithin f n := by
  induction n generalizing f k with
  | zero =>
    cases k with
    | zero => rfl
    | succ k =>
      simp only [Provenance.traceWithin, premises_of_mem_borrows (distance_zero_iff.1 hf)]
  | succ n ih =>
    obtain ⟨k, rfl⟩ : ∃ k', k = k' + 1 := ⟨k - 1, by omega⟩
    obtain ⟨g, hg, hdist, -⟩ := exists_premise hf
    rw [Provenance.traceWithin, Provenance.traceWithin, hg]
    exact congrArg (f :: ·) (ih hdist (by omega))

theorem trace_of_mem_borrows (hf : f ∈ i.borrows) : i.premises.trace f = [f] := by
  have hdist := distance_zero_iff.2 hf
  rw [Provenance.trace, traceWithin_eq hdist (Nat.zero_le _)]
  rfl

/-- A trace goes from a requirement to its premise and on from there. -/
theorem trace_eq_cons (hf : i.Distance f (n + 1)) (hg : i.premises[f]? = some g) :
    i.premises.trace f = f :: i.premises.trace g := by
  obtain ⟨g', hg', hdist, -⟩ := exists_premise hf
  obtain rfl : g' = g := Option.some.inj (hg'.symm.trans hg)
  have hsize := distance_le_size hf
  rw [Provenance.trace, Provenance.trace, traceWithin_eq hf hsize,
    traceWithin_eq hdist (n.le_succ.trans hsize), Provenance.traceWithin, hg]

end Inputs

end LoanCheck.Solver

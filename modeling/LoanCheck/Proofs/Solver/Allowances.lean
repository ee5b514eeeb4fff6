import LoanCheck.Proofs.Solver.Limits

/-!
# Checks that fit their budget

Whether a check under a budget ends with a result is up to the gate alone : it has to let through as many passes as
the two saturations make without limits (`Budget.Admits`, `Inputs.Fits`). A check that fits ends with the result
that there is without limits (`check_outcome_of_fits`), and any other check is exhausted
(`check_outcome_of_not_fits`).

Without a time limit the clock has no say : a check fits if neither saturation makes more passes than the limit
allows (`Inputs.fits_iff_allows`). How many these are can be said without any course. Saturation ends within `n`
passes exactly if whatever can be derived can be derived by fewer than `n` rounds of the rules
(`Inputs.endsWithin_iff`).
-/

namespace LoanCheck.Solver

/-- A course is not stopped exactly if the gate lets through as many passes as saturation makes. -/
theorem Deduction.Stage.Covers.stop_eq_none_iff {α σ ε ε' : Type} [Ord α] [Std.TransOrd α]
    [Std.LawfulEqOrd α] [DecidableEq α] {d : Deduction α σ} {s : d.Stage} {gate : ℕ → Option ε}
    {gate' : ℕ → Option ε'} {c : Course α ε} {full : Course α ε'} (hc : s.Covers gate 0 c)
    (hfull : s.Covers gate' 0 full) (hstop : full.stop = none) :
    c.stop = none ↔ ∀ k < full.passes, gate k = none := by
  rw [hfull.passes_of_stop_eq_none hstop, Nat.zero_add]
  constructor
  · intro hcstop k hk
    have hrounds := hc.rounds_eq hfull hcstop hstop
    rcases Nat.lt_succ_iff_lt_or_eq.1 hk with hlt | rfl
    · have := hc.passed k (hrounds ▸ hlt)
      rwa [Nat.zero_add] at this
    · have := (hc.settled hcstop).1
      rwa [Nat.zero_add, hrounds] at this
  · intro hgate
    cases hcstop : c.stop with
    | none => rfl
    | some reason =>
      have hle := hc.length_le hfull hstop
      have hrefused := hc.stopped reason hcstop
      rw [Nat.zero_add, hgate _ (by omega)] at hrefused
      cases hrefused

namespace Budget

/-- The gate lets as many passes through, the clock having been read for the start. -/
def Admits (b : Budget) (clock : Clock) (passes : ℕ) : Prop :=
  ∀ made < passes, b.gate clock made = none

/-- The limit of passes, if there is one, allows as many. -/
def Allows (b : Budget) (passes : ℕ) : Prop :=
  ∀ n, b.maxPasses = some n → (passes : ℤ) ≤ n

/-- Without a time limit the gate looks at the limit of passes only. A saturation makes at least one pass. -/
theorem admits_iff_allows {b : Budget} (h : b.timeout = none) (clock : Clock) {passes : ℕ}
    (hpos : 0 < passes) : b.Admits clock passes ↔ b.Allows passes := by
  have hgate : ∀ made, b.gate clock made = b.passStop made := by
    intro made
    simp [gate, timeStop, h]
  simp only [Admits, Allows, hgate, passStop]
  cases b.maxPasses with
  | none => simp
  | some n =>
    simp only [ite_eq_right_iff, reduceCtorEq, imp_false, Option.some.injEq, forall_eq']
    constructor
    · intro hpassed
      have := hpassed (passes - 1) (by omega)
      omega
    · intro hle made hmade
      omega

end Budget

theorem Clock.advance_advance (c : Clock) (m n : ℕ) : (c.advance m).advance n = c.advance (m + n) := by
  simp [Clock.advance, Nat.add_assoc]

/-! ## Saturation of a checker -/

namespace Checker

/-- The clock when the requirements start to be saturated, after inclusions that were started at a time. -/
def resumed (c : Checker) (clock : Clock) : Clock :=
  clock.advance (c.budget.readings (c.inclusionCourse clock) + 2)

/-- Saturation comes to its end exactly if neither course is stopped. -/
theorem saturate_eq_ok_iff (c : Checker) (clock : Clock) :
    (∃ passes, (c.saturate clock).outcome = .ok passes) ↔
      (c.inclusionCourse (clock.advance 1)).stop = none ∧
        ((c.included (clock.advance 1)).requirementCourse (c.resumed (clock.advance 1))).stop = none := by
  generalize hm : metered c.budget clock (Solver.inclusionCourse c.inputs.steps c.inclusions) = m
  have hcourse : m.course = c.inclusionCourse (clock.advance 1) := by
    rw [← hm]
    rfl
  cases hstop : m.course.stop with
  | some stop =>
    rw [hcourse] at hstop
    simp [saturate, hm, Metered.result, hcourse, hstop]
  | none =>
    have hread : (m.ended.advance 1).advance 1 = c.resumed (clock.advance 1) := by
      rw [Clock.advance_advance, ← hm]
      exact Clock.advance_advance _ _ _
    have houtcome : (c.saturate clock).outcome =
        ((c.included (clock.advance 1)).saturateRequirements (m.ended.advance 1)).outcome.map
          (⟨m.course.passes, ·⟩) := by
      simp only [saturate, hm, Metered.result, hstop]
      rw [hcourse]
      rfl
    rw [houtcome, ← hcourse, hstop, ← hread]
    cases hstop' : ((c.included (clock.advance 1)).requirementCourse
      ((m.ended.advance 1).advance 1)).stop with
    | some stop =>
      rw [(saturateRequirements_of_stop hstop').2]
      simp [Except.map]
    | none =>
      rw [(saturateRequirements_of_stop_eq_none hstop').2]
      simp [Except.map]

end Checker

/-! ## Checks -/

/-- Both saturations of the inputs fit the budget. The clock is read when the check starts, when either saturation
starts and when it ends, and before every pass if there is a time limit. -/
structure Inputs.Fits (i : Inputs) (b : Budget) (clock : Clock) : Prop where
  inclusions : b.Admits (clock.advance 2) i.passCounts.inclusions
  requirements : b.Admits
    (clock.advance (4 + if b.timeout.isSome then i.passCounts.inclusions else 0)) i.passCounts.requirements

variable {i : Inputs} {b : Budget} {clock : Clock}

/-- The gate is asked before every pass of a course that was not stopped. -/
theorem Budget.readings_of_stop_eq_none {α : Type} [Ord α] (b : Budget) {c : Course α Stop}
    (h : c.stop = none) : b.readings c = if b.timeout.isSome then c.passes else 0 := by
  rw [readings, h]
  cases b.timeout <;> rfl

/-- Saturation of a new checker comes to its end exactly if both courses fit the budget. -/
theorem Checker.saturate_start_eq_ok_iff (i : Inputs) (b : Budget) (clock : Clock) :
    (∃ passes, ((Checker.start i b).saturate (clock.advance 1)).outcome = .ok passes) ↔
      i.Fits b clock := by
  generalize hc : Checker.start i b = c
  have hinclusions : (c.inclusionCourse (clock.advance 2)).stop = none ↔
      b.Admits (clock.advance 2) i.passCounts.inclusions := by
    subst hc
    exact (covers_inclusionCourse _ (clock.advance 2) rfl).stop_eq_none_iff inclusionCourse_covers
      i.stop_inclusionCourse
  have hrequirements : (c.inclusionCourse (clock.advance 2)).stop = none →
      (((c.included (clock.advance 2)).requirementCourse (c.resumed (clock.advance 2))).stop = none ↔
        b.Admits (clock.advance (4 + if b.timeout.isSome then i.passCounts.inclusions else 0))
          i.passCounts.requirements) := by
    subst hc
    intro hstop
    have hclock : (Checker.start i b).resumed (clock.advance 2) =
        clock.advance (4 + if b.timeout.isSome then i.passCounts.inclusions else 0) := by
      have hcourse : (Checker.start i b).inclusionCourse (clock.advance 2) = i.inclusionCourse :=
        inclusionCourse_eq rfl hstop
      rw [resumed, Budget.readings_of_stop_eq_none _ hstop, Clock.advance_advance, hcourse]
      show clock.advance (2 + ((if b.timeout.isSome then i.passCounts.inclusions else 0) + 2)) = _
      congr 1
      omega
    rw [← hclock]
    exact (covers_requirementCourse _ _ (inclusions_included rfl hstop) rfl).stop_eq_none_iff
      i.covers_requirementCourse i.stop_requirementCourse
  rw [saturate_eq_ok_iff, Clock.advance_advance]
  constructor
  · rintro ⟨hfirst, hsecond⟩
    exact ⟨hinclusions.1 hfirst, (hrequirements hfirst).1 hsecond⟩
  · rintro ⟨hfirst, hsecond⟩
    exact ⟨hinclusions.2 hfirst, (hrequirements (hinclusions.2 hfirst)).2 hsecond⟩

theorem check_eq_ok_iff : (∃ result, (check i b clock).outcome = .ok result) ↔ i.Fits b clock := by
  rw [← Checker.saturate_start_eq_ok_iff, check, Checker.run]
  split
  · next h => simp [h]
  · next h => simp [h]

/-- A check that fits its budget ends with the result that there is without limits. -/
theorem check_outcome_of_fits (h : i.Fits b clock) : (check i b clock).outcome = .ok i.result := by
  obtain ⟨result, hresult⟩ := check_eq_ok_iff.2 h
  rcases check_outcome_cases i b clock with ⟨_, e, -, herror⟩ | ⟨_, _, -, hok⟩
  · rw [hresult] at herror
    cases herror
  · exact hok

/-- A check that does not fit its budget is exhausted. -/
theorem check_outcome_of_not_fits (h : ¬i.Fits b clock) :
    ∃ e, (check i b clock).outcome = .error e := by
  cases houtcome : (check i b clock).outcome with
  | error e => exact ⟨e, rfl⟩
  | ok result => exact absurd (check_eq_ok_iff.1 ⟨result, houtcome⟩) h

/-- Without a time limit a check fits its budget if neither saturation makes more passes than the limit allows. -/
theorem Inputs.fits_iff_allows (i : Inputs) (h : b.timeout = none) (clock : Clock) :
    i.Fits b clock ↔ b.Allows i.passCounts.inclusions ∧ b.Allows i.passCounts.requirements := by
  have hinclusions : 0 < i.passCounts.inclusions := by
    rw [inclusions_passCounts]
    exact Nat.succ_pos _
  have hrequirements : 0 < i.passCounts.requirements := by
    rw [requirements_passCounts]
    exact Nat.succ_pos _
  rw [← Budget.admits_iff_allows h _ hinclusions, ← Budget.admits_iff_allows h _ hrequirements]
  exact ⟨fun hfits => ⟨hfits.inclusions, hfits.requirements⟩, fun ⟨hinc, hreq⟩ => ⟨hinc, hreq⟩⟩

/-! ## Passes and derivations -/

namespace Deduction

variable {α σ ε : Type} [Ord α] [Std.TransOrd α] [Std.LawfulEqOrd α] [DecidableEq α]
  {d : Deduction α σ} {seed : Relation α} {h : ∀ a ∈ seed, d.Possible a} {gate : ℕ → Option ε}
  {c : Course α ε}

/-- A course that was not stopped ends with the facts of all levels. -/
theorem mem_last_iff_exists_level (hc : (Stage.start d seed h).Covers gate 0 c) (hstop : c.stop = none)
    (a : α) : a ∈ c.last seed ↔ ∃ n, d.Level seed n a := by
  rw [mem_last_of_covers hc]
  exact ⟨fun ha => ⟨_, ha⟩, fun ⟨_, ha⟩ => level_length_of_covers hc hstop ha⟩

/-- It has no more than `n` rounds exactly if all these facts have level `n`. -/
theorem length_rounds_le_iff (hc : (Stage.start d seed h).Covers gate 0 c) (hstop : c.stop = none)
    (n : ℕ) : c.rounds.length ≤ n ↔ ∀ m a, d.Level seed m a → d.Level seed n a := by
  constructor
  · intro hle m a ha
    exact (level_length_of_covers hc hstop ha).mono hle
  · intro hlast
    by_contra hlt
    have hne := hc.found n (by omega)
    obtain ⟨a, ha⟩ := not_forall_not.1 (mt Std.ExtTreeMap.eq_empty_iff_forall_not_mem.2 hne)
    obtain ⟨hnew, hold⟩ := (Stage.mem_found_after h n a).1 ha
    exact hold (hlast _ a hnew)

end Deduction

namespace Inputs

/-- A region requires a loan at a point, by `n` rules after a borrow. -/
inductive Requires (i : Inputs) : ℕ → Region → Loan → Point → Prop where
  | borrow {r : Region} {l : Loan} {p : Point} : ⟨r, l, p⟩ ∈ i.borrows → Requires i 0 r l p
  | flow {n : ℕ} {a b : Region} {l : Loan} {p : Point} : Requires i n a l p →
      Inclusion.Tree i.steps i.inclusions a b p → Requires i (n + 1) b l p
  | carry {n : ℕ} {a : Region} {l : Loan} {p q : Point} : Requires i n a l p →
      ⟨p, q⟩ ∈ i.steps → ⟨l, p⟩ ∉ i.kills → Requires i (n + 1) a l q

/-- Both saturations end within `n` passes. What can be derived at all is derived by fewer than `n` rounds of the
rules, since the last pass finds nothing. -/
structure EndsWithin (i : Inputs) (n : ℤ) : Prop where
  pos : 0 < n
  inclusions : ∀ {a b p}, Inclusion.Tree i.steps i.inclusions a b p →
    ∃ t : Inclusion.Tree i.steps i.inclusions a b p, (t.height : ℤ) < n
  requirements : ∀ {m r l p}, i.Requires m r l p → ∃ k : ℕ, (k : ℤ) < n ∧ i.Requires k r l p

theorem mem_inclusionClosure_iff_tree {a b : Region} {p : Point} :
    ⟨a, b, p⟩ ∈ i.inclusionClosure ↔ Nonempty (Inclusion.Tree i.steps i.inclusions a b p) := by
  have hmem := Deduction.mem_last_iff_exists_level inclusionCourse_covers i.stop_inclusionCourse ⟨a, b, p⟩
  simp only [Inclusion.level_iff_tree] at hmem
  refine hmem.trans ⟨fun ⟨_, t, _⟩ => ⟨t⟩, fun ⟨t⟩ => ⟨t.height, t, le_rfl⟩⟩

theorem requires_iff_reached {n : ℕ} {r : Region} {l : Loan} {p : Point} :
    i.Requires n r l p ↔
      Requirement.Reached i.inclusionClosure i.steps i.kills i.borrows n ⟨r, l, p⟩ := by
  constructor
  · intro h
    induction h with
    | borrow hb => exact .start hb
    | flow _ t ih => exact ih.step (.flow (mem_inclusionClosure_iff_tree.2 ⟨t⟩))
    | carry _ hs hk ih => exact ih.step (.carry hs hk)
  · generalize hf : Requirement.mk r l p = f
    intro h
    induction h generalizing r l p with
    | start hb =>
      subst hf
      exact .borrow hb
    | step _ hd ih =>
      cases hd with
      | flow hi =>
        cases hf
        obtain ⟨t⟩ := mem_inclusionClosure_iff_tree.1 hi
        exact .flow (ih rfl) t
      | carry hs hk =>
        cases hf
        exact .carry (ih rfl) hs hk

theorem mem_requirementClosure_iff_requires {r : Region} {l : Loan} {p : Point} :
    ⟨r, l, p⟩ ∈ i.requirementClosure ↔ ∃ n, i.Requires n r l p := by
  have hmem := Deduction.mem_last_iff_exists_level i.covers_requirementCourse i.stop_requirementCourse ⟨r, l, p⟩
  simp only [Requirement.level_iff_reached, ← requires_iff_reached] at hmem
  exact hmem.trans ⟨fun ⟨_, m, _, h⟩ => ⟨m, h⟩, fun ⟨m, h⟩ => ⟨m, m, le_rfl, h⟩⟩

theorem length_inclusionCourse_le_iff {n : ℕ} : i.inclusionCourse.rounds.length ≤ n ↔
    ∀ a b p, Nonempty (Inclusion.Tree i.steps i.inclusions a b p) →
      ∃ t : Inclusion.Tree i.steps i.inclusions a b p, t.height ≤ n := by
  have hle := Deduction.length_rounds_le_iff inclusionCourse_covers i.stop_inclusionCourse n
  simp only [Inclusion.level_iff_tree] at hle
  refine hle.trans ⟨fun h a b p ⟨t⟩ => h t.height ⟨a, b, p⟩ ⟨t, le_rfl⟩, fun h m f ⟨t, _⟩ => h _ _ _ ⟨t⟩⟩

theorem length_requirementCourse_le_iff {n : ℕ} : i.requirementCourse.rounds.length ≤ n ↔
    ∀ m r l p, i.Requires m r l p → ∃ k ≤ n, i.Requires k r l p := by
  have hle := Deduction.length_rounds_le_iff i.covers_requirementCourse i.stop_requirementCourse n
  simp only [Requirement.level_iff_reached] at hle
  simp only [requires_iff_reached]
  exact hle.trans ⟨fun h m r l p hr => h m _ ⟨m, le_rfl, hr⟩, fun h m f ⟨k, _, hr⟩ => h k _ _ _ hr⟩

/-- Saturation ends within as many passes as it makes, and within no fewer. -/
theorem endsWithin_iff {n : ℤ} : i.EndsWithin n ↔
    (i.passCounts.inclusions : ℤ) ≤ n ∧ (i.passCounts.requirements : ℤ) ≤ n := by
  rw [inclusions_passCounts, requirements_passCounts]
  constructor
  · rintro ⟨hpos, hinc, hreq⟩
    obtain ⟨k, rfl⟩ : ∃ k : ℕ, n = k + 1 := ⟨(n - 1).toNat, by omega⟩
    have hinc' : i.inclusionCourse.rounds.length ≤ k := length_inclusionCourse_le_iff.2 fun a b p ⟨t⟩ => by
      obtain ⟨t', ht'⟩ := hinc t
      exact ⟨t', by omega⟩
    have hreq' : i.requirementCourse.rounds.length ≤ k := length_requirementCourse_le_iff.2 fun m r l p h => by
      obtain ⟨m', hm', h'⟩ := hreq h
      exact ⟨m', by omega, h'⟩
    omega
  · rintro ⟨hinc, hreq⟩
    obtain ⟨k, rfl⟩ : ∃ k : ℕ, n = k + 1 := ⟨(n - 1).toNat, by omega⟩
    refine ⟨by omega, fun {a b p} t => ?_, fun {m r l p} h => ?_⟩
    · obtain ⟨t', ht'⟩ := length_inclusionCourse_le_iff.1 (show _ ≤ k by omega) a b p ⟨t⟩
      exact ⟨t', by omega⟩
    · obtain ⟨m', hm', h'⟩ := length_requirementCourse_le_iff.1 (show _ ≤ k by omega) m r l p h
      exact ⟨m', by omega, h'⟩

/-- Without a time limit a check fits its budget exactly if saturation ends within the limit of passes, if there is
one. -/
theorem fits_iff_endsWithin (i : Inputs) (h : b.timeout = none) (clock : Clock) :
    i.Fits b clock ↔ ∀ n, b.maxPasses = some n → i.EndsWithin n := by
  simp only [i.fits_iff_allows h, endsWithin_iff, Budget.Allows]
  exact ⟨fun ⟨hinc, hreq⟩ n hn => ⟨hinc n hn, hreq n hn⟩,
    fun hall => ⟨fun n hn => (hall n hn).1, fun n hn => (hall n hn).2⟩⟩

end Inputs

end LoanCheck.Solver

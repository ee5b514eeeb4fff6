import LoanCheck.Proofs.Solver.Explanations
import LoanCheck.Proofs.Solver.Walks

/-!
# The next use of a loan

A violation names the nearest later point where its region is live and the loan has not been killed on the way. The
search goes from ring to ring and follows what leaves a point only once. It loses nothing by that
(`exists_useIn_nextRing`) : a walk that comes back to a ring has a shorter way from there, so the shortest walks never
miss the steps that were followed before. What the search comes to is a nearest use (`isNearest_searchUse`).

The search also passes over points where the region does not require the loan, and does not go beyond a use or back to
the point it started from. On saturated requirements none of this cuts off a shortest path
(`UsedAfter.exists_sees`) : a requirement is carried along with the loan, and where a path meets a use or comes back
to its start there is a shorter one. So the search finds what the steps, the kills and the live regions alone say
(`check_usagePoint`).
-/

namespace LoanCheck.Solver

/-! ## Nearest points -/

/-- The point is one that comes at the least distance, and there is none if no point comes at any. -/
def IsNearest (P : ℕ → Point → Prop) : Option Point → Prop
  | some q => ∃ n, P n q ∧ ∀ m q', P m q' → n ≤ m
  | none => ∀ n q, ¬P n q

namespace IsNearest

variable {P Q : ℕ → Point → Prop} {found : Option Point}

theorem eq_none_iff (h : IsNearest P found) : found = none ↔ ¬∃ n q, P n q := by
  cases found with
  | none => exact ⟨fun _ ⟨n, q, hq⟩ => h n q hq, fun _ => rfl⟩
  | some q =>
    obtain ⟨n, hn, -⟩ := h
    exact ⟨nofun, fun hnone => absurd ⟨n, q, hn⟩ hnone⟩

theorem exists_isLeast {q : Point} (h : IsNearest P (some q)) : ∃ n, P n q ∧ IsLeast {m | ∃ q', P m q'} n := by
  obtain ⟨n, hn, hleast⟩ := h
  exact ⟨n, hn, ⟨q, hn⟩, fun m ⟨q', hq'⟩ => hleast m q' hq'⟩

/-- Distances may be counted from one step earlier on. -/
theorem shift (h : IsNearest P found)
    (hPQ : ∀ n q, P n q → Q (n + 1) q) (hQP : ∀ n q, Q n q → ∃ m < n, ∃ q', P m q') : IsNearest Q found := by
  cases found with
  | none =>
    intro n q hq
    obtain ⟨m, -, q', hq'⟩ := hQP n q hq
    exact h m q' hq'
  | some q =>
    obtain ⟨n, hn, hleast⟩ := h
    refine ⟨n + 1, hPQ n q hn, fun m q' hq' => ?_⟩
    obtain ⟨k, hk, q'', hq''⟩ := hQP m q' hq'
    exact (hleast k q'' hq'').trans_lt hk

end IsNearest

/-! ## Rings -/

section Search

variable {sight : Point → Sighting} {ring : List Point} {left : Successors} {p q : Point} {n : ℕ}

/-- One step of the search, along the steps that are left. -/
def Follows (sight : Point → Sighting) (left : Successors) (p q : Point) : Prop :=
  sight p = .passage ∧ q ∈ left.get p

/-- The search can come from a ring to a use in `n` steps. -/
def UseIn (sight : Point → Sighting) (ring : List Point) (left : Successors) (n : ℕ) (q : Point) : Prop :=
  sight q = .use ∧ ∃ p ∈ ring, Walk (Follows sight left) n p q

theorem mem_nextRing : q ∈ (nextRing sight ring left).1 ↔ ∃ p ∈ ring, Follows sight left p q := by
  induction ring generalizing left with
  | nil => simp [nextRing]
  | cons a ring ih =>
    unfold nextRing
    split
    · -- what leaves `a` is listed here, and not once more if `a` is met again
      simp only [List.mem_append, ih, Follows, Index.get_erase, List.mem_cons]
      grind
    · simp only [ih, Follows, List.mem_cons]
      grind

theorem get_nextRing :
    (nextRing sight ring left).2.get p = if p ∈ ring ∧ sight p = .passage then [] else left.get p := by
  induction ring generalizing left with
  | nil => simp [nextRing]
  | cons a ring ih =>
    unfold nextRing
    split
    · simp only [ih, Index.get_erase, List.mem_cons]
      grind
    · simp only [ih, List.mem_cons]
      grind

theorem size_nextRing_le : (nextRing sight ring left).2.size ≤ left.size := by
  induction ring generalizing left with
  | nil => exact le_rfl
  | cons a ring ih =>
    unfold nextRing
    split
    · exact ih.trans Std.ExtTreeMap.size_erase_le
    · exact ih

theorem size_erase_lt (h : q ∈ left.get p) : (left.erase p).size < left.size := by
  have hmem : p ∈ left := by
    by_contra hp
    rw [Index.get, Std.ExtTreeMap.getD_eq_fallback hp] at h
    cases h
  have hpos : left.size ≠ 0 := fun h0 => by
    rw [Std.ExtTreeMap.eq_empty_iff_size_eq_zero.2 h0] at hmem
    exact Std.ExtTreeMap.not_mem_empty hmem
  rw [Std.ExtTreeMap.size_erase, if_pos (by simpa using hmem)]
  omega

/-- A ring from which no step is left to follow is the last one. -/
theorem not_follows_of_size_nextRing (h : ¬(nextRing sight ring left).2.size < left.size) (hp : p ∈ ring) :
    ¬Follows sight left p q := by
  induction ring generalizing left with
  | nil => cases hp
  | cons a ring ih =>
    rintro ⟨hpass, hq⟩
    unfold nextRing at h
    split at h
    case isTrue =>
      by_cases hpa : p = a
      · subst hpa
        exact h (size_nextRing_le.trans_lt (size_erase_lt hq))
      · have hring : p ∈ ring := (List.mem_cons.1 hp).resolve_left hpa
        have hsize : ¬(nextRing sight ring (left.erase a)).2.size < (left.erase a).size :=
          fun hlt => h (hlt.trans_le Std.ExtTreeMap.size_erase_le)
        refine ih hsize hring ⟨hpass, ?_⟩
        rwa [Index.get_erase, if_neg (Ne.symm hpa)]
    case isFalse ha =>
      rcases List.mem_cons.1 hp with rfl | hp
      · exact ha hpass
      · exact ih h hp ⟨hpass, hq⟩

/-! ## The search -/

/-- What is left after a ring is left before it. -/
theorem UseIn.of_nextRing (h : UseIn sight (nextRing sight ring left).1 (nextRing sight ring left).2 n q) :
    UseIn sight ring left (n + 1) q := by
  obtain ⟨huse, p, hp, hwalk⟩ := h
  obtain ⟨a, ha, hap⟩ := mem_nextRing.1 hp
  refine ⟨huse, a, ha, .step hap (hwalk.mono fun b c hbc => ⟨hbc.1, ?_⟩)⟩
  have hc := hbc.2
  rw [get_nextRing] at hc
  split at hc
  · cases hc
  · exact hc

/-- A walk that leads to a use either keeps off the ring, or has a shorter end that starts in the next one. -/
theorem keepsOff_or_exists_useIn (ring : List Point) (hwalk : Walk (Follows sight left) n p q) (huse : sight q = .use) :
    Walk (Follows sight (nextRing sight ring left).2) n p q ∨
      ∃ m < n, UseIn sight (nextRing sight ring left).1 (nextRing sight ring left).2 m q := by
  induction hwalk with
  | refl => exact .inl .refl
  | @step n a b c hab _ ih =>
    rcases ih huse with hkeeps | ⟨m, hm, hshort⟩
    · by_cases ha : a ∈ ring
      · exact .inr ⟨n, n.lt_succ_self, huse, b, mem_nextRing.2 ⟨a, ha, hab⟩, hkeeps⟩
      · refine .inl (.step ⟨hab.1, ?_⟩ hkeeps)
        rw [get_nextRing, if_neg fun h => ha h.1]
        exact hab.2
    · exact .inr ⟨m, hm.trans n.lt_succ_self, hshort⟩

/-- Where a ring has no use itself, a use that it leads to is nearer to the next ring. -/
theorem exists_useIn_nextRing (hnone : ∀ p ∈ ring, sight p ≠ .use) (h : UseIn sight ring left n q) :
    ∃ m < n, UseIn sight (nextRing sight ring left).1 (nextRing sight ring left).2 m q := by
  obtain ⟨huse, p, hp, hwalk⟩ := h
  rcases keepsOff_or_exists_useIn ring hwalk huse with hkeeps | hshort
  · cases hkeeps with
    | refl => exact absurd huse (hnone _ hp)
    | step hfollows _ =>
      have hq := hfollows.2
      rw [get_nextRing, if_pos ⟨hp, hfollows.1⟩] at hq
      cases hq
  · exact hshort

/-- The search comes to a nearest use. -/
theorem isNearest_searchUse (sight : Point → Sighting) (ring : List Point) (left : Successors) :
    IsNearest (UseIn sight ring left) (searchUse sight ring left) := by
  fun_induction searchUse sight ring left with
  | case1 ring left q hfind =>
    have huse : sight q = .use := by simpa using List.find?_some hfind
    exact ⟨0, ⟨huse, q, List.mem_of_find?_eq_some hfind, .refl⟩, fun m _ _ => m.zero_le⟩
  | case2 ring left hfind next hlt ih =>
    have hnone : ∀ p ∈ ring, sight p ≠ .use := by simpa using hfind
    refine ih.shift (fun n q h => h.of_nextRing) fun n q h => ?_
    obtain ⟨m, hm, hnext⟩ := exists_useIn_nextRing hnone h
    exact ⟨m, hm, q, hnext⟩
  | case3 ring left hfind next hsize =>
    have hnone : ∀ p ∈ ring, sight p ≠ .use := by simpa using hfind
    rintro n q ⟨huse, p, hp, hwalk⟩
    cases hwalk with
    | refl => exact hnone _ hp huse
    | step hfollows _ => exact not_follows_of_size_nextRing hsize hp hfollows

end Search

/-! ## Sights of a checker -/

namespace Checker

variable {c : Checker} {r : Region} {l : Loan} {p q : Point}

theorem sight_eq_use_iff :
    c.sight r l p q = .use ↔ q ≠ p ∧ ⟨r, l, q⟩ ∈ c.requirements ∧ ⟨r, q⟩ ∈ c.inputs.live := by
  unfold sight
  grind

theorem sight_eq_passage_iff :
    c.sight r l p q = .passage ↔
      q ≠ p ∧ ⟨r, l, q⟩ ∈ c.requirements ∧ ⟨r, q⟩ ∉ c.inputs.live ∧ ⟨l, q⟩ ∉ c.inputs.kills := by
  unfold sight
  grind

end Checker

/-! ## Uses after a point -/

namespace Inputs

/-- The loan is carried in `n` steps from a point to another one where the region is live. -/
def UsedAfter (i : Inputs) (r : Region) (l : Loan) (p : Point) (n : ℕ) (q : Point) : Prop :=
  q ≠ p ∧ ⟨r, q⟩ ∈ i.live ∧ i.CarriesIn l n p q

variable {i : Inputs} {r : Region} {l : Loan} {p q : Point} {n : ℕ}

theorem mem_requirementClosure_carry (hs : ⟨p, q⟩ ∈ i.steps) (hk : ⟨l, p⟩ ∉ i.kills)
    (h : ⟨r, l, p⟩ ∈ i.requirementClosure) : ⟨r, l, q⟩ ∈ i.requirementClosure :=
  (isLeast_last_requirementCourse i.stop_requirementCourse).1.2.carry hs hk h

/-- A requirement is carried along with its loan. -/
theorem CarriesIn.mem_requirementClosure (hwalk : i.CarriesIn l n p q)
    (h : ⟨r, l, p⟩ ∈ i.requirementClosure) : ⟨r, l, q⟩ ∈ i.requirementClosure := by
  induction hwalk with
  | refl => exact h
  | step hs _ ih => exact ih (mem_requirementClosure_carry hs.1 hs.2 h)

/-- The uses that the search of a saturated checker can come to, from the points after the one it starts from. -/
def Sees (i : Inputs) (r : Region) (l : Loan) (p : Point) : ℕ → Point → Prop :=
  UseIn ((Checker.saturated i).sight r l p) ((Successors.of i.steps).get p) (Successors.of i.steps)

theorem Sees.usedAfter (hk : ⟨l, p⟩ ∉ i.kills) (h : i.Sees r l p n q) : i.UsedAfter r l p (n + 1) q := by
  obtain ⟨huse, a, ha, hwalk⟩ := h
  obtain ⟨hne, -, hlive⟩ := Checker.sight_eq_use_iff.1 huse
  refine ⟨hne, hlive, .step ⟨Successors.mem_get.1 ha, hk⟩ (hwalk.mono fun b c hbc => ?_)⟩
  exact ⟨Successors.mem_get.1 hbc.2, (Checker.sight_eq_passage_iff.1 hbc.1).2.2.2⟩

/-- From a point where the loan is required, the search comes to a use no later than the loan is carried to one. If the
way leads through the point that the search started from, the search has come to a use already. -/
theorem CarriesIn.exists_use {a : Point} (hwalk : i.CarriesIn l n a q) (ha : ⟨r, l, a⟩ ∈ i.requirementClosure)
    (hq : q ≠ p) (hlive : ⟨r, q⟩ ∈ i.live) :
    (a ≠ p ∧ ∃ m ≤ n, ∃ q', (Checker.saturated i).sight r l p q' = .use ∧
        Walk (Follows ((Checker.saturated i).sight r l p) (Successors.of i.steps)) m a q') ∨
      ∃ m < n, ∃ q', i.Sees r l p m q' := by
  induction hwalk with
  | refl => exact .inl ⟨hq, 0, le_rfl, _, Checker.sight_eq_use_iff.2 ⟨hq, ha, hlive⟩, .refl⟩
  | @step n a b c hs _ ih =>
    rcases ih (mem_requirementClosure_carry hs.1 hs.2 ha) hq hlive with ⟨hb, m, hm, q', huse, hwalk⟩ | ⟨m, hm, hsees⟩
    · by_cases hap : a = p
      · subst hap
        exact .inr ⟨m, Nat.lt_succ_of_le hm, q', huse, b, Successors.mem_get.2 hs.1, hwalk⟩
      · by_cases halive : ⟨r, a⟩ ∈ i.live
        · exact .inl ⟨hap, 0, Nat.zero_le _, a, Checker.sight_eq_use_iff.2 ⟨hap, ha, halive⟩, .refl⟩
        · have hpass : (Checker.saturated i).sight r l p a = .passage :=
            Checker.sight_eq_passage_iff.2 ⟨hap, ha, halive, hs.2⟩
          exact .inl ⟨hap, m + 1, Nat.succ_le_succ hm, q', huse, .step ⟨hpass, Successors.mem_get.2 hs.1⟩ hwalk⟩
    · exact .inr ⟨m, hm.trans n.lt_succ_self, hsees⟩

theorem UsedAfter.exists_sees (hreq : ⟨r, l, p⟩ ∈ i.requirementClosure) (h : i.UsedAfter r l p n q) :
    ∃ m < n, ∃ q', i.Sees r l p m q' := by
  obtain ⟨hne, hlive, hwalk⟩ := h
  exact (hwalk.exists_use hreq hne hlive).resolve_left fun h => h.1 rfl

/-- The next use that a saturated checker names is a nearest one. -/
theorem isNearest_nextUse (hreq : ⟨r, l, p⟩ ∈ i.requirementClosure) :
    IsNearest (i.UsedAfter r l p) ((Checker.saturated i).nextUse (Successors.of i.steps) r l p) := by
  unfold Checker.nextUse
  split
  case isTrue hk =>
    rintro n q ⟨hne, -, hwalk⟩
    cases hwalk with
    | refl => exact hne rfl
    | step hs _ => exact hs.2 hk
  case isFalse hk =>
    have hsearch : IsNearest (i.Sees r l p) (searchUse ((Checker.saturated i).sight r l p)
        ((Successors.of i.steps).get p) (Successors.of i.steps)) := isNearest_searchUse ..
    exact hsearch.shift (fun n q h => h.usedAfter hk) fun n q h => h.exists_sees hreq

end Inputs

/-- A check without limits ends, and so does every search for a next use. A violation names no point of use exactly if
its loan is carried to no other point where its region is live. Otherwise it names such a point, the loan is required
there, and no path that carries the loan to any such point is shorter than one that carries it to this one. -/
theorem check_usagePoint (i : Inputs) (clock : Clock) :
    ∃ result, (check i {} clock).outcome = .ok result ∧ ∀ v ∈ result.violations,
      (v.usagePoint = none ↔ ¬∃ n q, i.UsedAfter v.region v.loan v.point n q) ∧
      ∀ q, v.usagePoint = some q → ⟨v.region, v.loan, q⟩ ∈ result.requirements ∧
        ∃ n, i.UsedAfter v.region v.loan v.point n q ∧
          IsLeast {m | ∃ q', i.UsedAfter v.region v.loan v.point m q'} n := by
  obtain ⟨passes, hcheck⟩ := check_unlimited i clock
  refine ⟨_, hcheck, fun v hv => ?_⟩
  obtain ⟨hmem, hexplain⟩ := Checker.explain_of_mem_violations hv
  have hnearest : IsNearest (i.UsedAfter v.region v.loan v.point) v.usagePoint := by
    rw [hexplain]
    exact Inputs.isNearest_nextUse hmem
  refine ⟨hnearest.eq_none_iff, fun q hq => ?_⟩
  rw [hq] at hnearest
  obtain ⟨n, hused, hleast⟩ := hnearest.exists_isLeast
  exact ⟨hused.2.2.mem_requirementClosure hmem, n, hused, hleast⟩

/-- The region is live where the loan is invalidated, on a loop through that point, and at a point behind it. The point
itself is no later use, and the way to the other one leads around the loop only once. -/
example :
    let inputs : Inputs :=
      { steps := .ofList [⟨0, 1⟩, ⟨1, 0⟩, ⟨1, 2⟩, ⟨2, 3⟩]
        borrows := .ofList [⟨0, 0, 0⟩]
        live := .ofList [⟨0, 0⟩, ⟨0, 3⟩]
        invalidations := .ofList [⟨0, 0⟩] }
    (check inputs {} ⟨fun _ => 0, 0⟩).outcome.toOption.map (·.violations.map (·.usagePoint)) = some [some 3] := by
  decide +kernel

end LoanCheck.Solver

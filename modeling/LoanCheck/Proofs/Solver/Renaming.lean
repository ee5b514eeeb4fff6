import LoanCheck.Proofs.Solver.Allowances
import LoanCheck.Proofs.Solver.Listing
import LoanCheck.Proofs.Solver.Mentions

/-!
# Other numbers for regions and loans

A check orders facts by the numbers of regions and loans, but what it finds does not depend on them.

`Deduction.Renames` says that a deduction is another one with its facts renamed, and that different facts get
different names. Levels are then renamed one by one (`Renames.level_iff`), so that courses which are not stopped have
equally many rounds (`Renames.length_rounds_eq`) and end in renamed relations (`Renames.mem_last_iff`).

`Inputs.Renamed` is the same for the inputs of a check. Both its deductions are renamed
(`Renamed.renames_inclusions`, `Renamed.renames_requirements`). So are the points and loans of the violations, of which
there are as many as before (`Renamed.perm_keys`).
-/

namespace LoanCheck.Solver

/-! ## Renamed deductions -/

namespace Deduction

variable {α β σ τ ε ε' : Type} [Ord α] [Std.TransOrd α] [Ord β] [Std.TransOrd β]

/-- The second deduction, over its seed, is the first one with its facts renamed, and facts that are possible get
different names. -/
structure Renames (φ : α → β) (d : Deduction α σ) (seed : Relation α) (d' : Deduction β τ)
    (seed' : Relation β) : Prop where
  possible : ∀ a ∈ seed, d.Possible a
  eq_of_eq : ∀ {a a'}, d.Possible a → d.Possible a' → φ a = φ a' → a = a'
  mem_seed : ∀ b, b ∈ seed' ↔ ∃ a ∈ seed, φ a = b
  derives_iff : ∀ {f g}, d.Possible f → d.Possible g →
    ∀ b, d'.Derives (φ f) (φ g) b ↔ ∃ a, d.Derives f g a ∧ φ a = b

namespace Renames

variable {φ : α → β} {d : Deduction α σ} {seed : Relation α} {d' : Deduction β τ} {seed' : Relation β}

/-- The facts of a level are those of the same level before, renamed. -/
theorem level_iff (hφ : Renames φ d seed d' seed') (n : ℕ) (b : β) :
    d'.Level seed' n b ↔ ∃ a, d.Level seed n a ∧ φ a = b := by
  induction n generalizing b with
  | zero => exact hφ.mem_seed b
  | succ n ih =>
    constructor
    · rintro (hb | ⟨f', g', hf', hg', hd⟩)
      · obtain ⟨a, ha, rfl⟩ := (ih b).1 hb
        exact ⟨a, .inl ha, rfl⟩
      · obtain ⟨f, hf, rfl⟩ := (ih f').1 hf'
        obtain ⟨g, hg, rfl⟩ := (ih g').1 hg'
        obtain ⟨a, ha, rfl⟩ :=
          (hφ.derives_iff (hf.possible hφ.possible) (hg.possible hφ.possible) b).1 hd
        exact ⟨a, .inr ⟨f, g, hf, hg, ha⟩, rfl⟩
    · rintro ⟨a, ha | ⟨f, g, hf, hg, hd⟩, rfl⟩
      · exact .inl ((ih _).2 ⟨a, ha, rfl⟩)
      · have hd' := (hφ.derives_iff (hf.possible hφ.possible) (hg.possible hφ.possible) _).2 ⟨a, hd, rfl⟩
        exact .inr ⟨φ f, φ g, (ih _).2 ⟨f, hf, rfl⟩, (ih _).2 ⟨g, hg, rfl⟩, hd'⟩

/-- A fact has the level of its new name. -/
theorem level_iff_of_possible (hφ : Renames φ d seed d' seed') (n : ℕ) {a : α} (ha : d.Possible a) :
    d'.Level seed' n (φ a) ↔ d.Level seed n a := by
  rw [hφ.level_iff]
  constructor
  · rintro ⟨a', ha', heq⟩
    obtain rfl := hφ.eq_of_eq (ha'.possible hφ.possible) ha heq
    exact ha'
  · exact fun hlevel => ⟨a, hlevel, rfl⟩

variable [Std.LawfulEqOrd α] [DecidableEq α] [Std.LawfulEqOrd β] [DecidableEq β]
  {h : ∀ a ∈ seed, d.Possible a} {gate : ℕ → Option ε} {c : Course α ε}
  {h' : ∀ b ∈ seed', d'.Possible b} {gate' : ℕ → Option ε'} {c' : Course β ε'}

/-- Courses of renamed deductions that were not stopped have as many rounds. -/
theorem length_rounds_eq (hφ : Renames φ d seed d' seed') (hc : (Stage.start d seed h).Covers gate 0 c)
    (hstop : c.stop = none) (hc' : (Stage.start d' seed' h').Covers gate' 0 c')
    (hstop' : c'.stop = none) : c'.rounds.length = c.rounds.length := by
  have hlast : ∀ n, c'.rounds.length ≤ n ↔ c.rounds.length ≤ n := by
    intro n
    rw [length_rounds_le_iff hc' hstop', length_rounds_le_iff hc hstop]
    constructor
    · intro hlast m a ha
      have hpossible := ha.possible hφ.possible
      rw [← hφ.level_iff_of_possible _ hpossible] at ha ⊢
      exact hlast m _ ha
    · intro hlast m b hb
      obtain ⟨a, ha, rfl⟩ := (hφ.level_iff _ b).1 hb
      exact (hφ.level_iff _ _).2 ⟨a, hlast m a ha, rfl⟩
  exact Nat.le_antisymm ((hlast _).2 le_rfl) ((hlast _).1 le_rfl)

theorem passes_eq (hφ : Renames φ d seed d' seed') (hc : (Stage.start d seed h).Covers gate 0 c)
    (hstop : c.stop = none) (hc' : (Stage.start d' seed' h').Covers gate' 0 c')
    (hstop' : c'.stop = none) : c'.passes = c.passes := by
  rw [passes_of_covers hc' hstop', passes_of_covers hc hstop,
    hφ.length_rounds_eq hc hstop hc' hstop']

/-- Such courses end in renamed relations. -/
theorem mem_last_iff (hφ : Renames φ d seed d' seed') (hc : (Stage.start d seed h).Covers gate 0 c)
    (hstop : c.stop = none) (hc' : (Stage.start d' seed' h').Covers gate' 0 c')
    (hstop' : c'.stop = none) (b : β) :
    b ∈ c'.last seed' ↔ ∃ a ∈ c.last seed, φ a = b := by
  rw [mem_last_of_covers hc', hφ.length_rounds_eq hc hstop hc' hstop', hφ.level_iff]
  simp only [mem_last_of_covers hc]

end Renames

end Deduction

/-! ## The rules, read from their premises -/

theorem Inclusion.derives_iff {steps : Relation Step} {x y z : Inclusion} :
    Inclusion.Derives steps x y z ↔
      x.sup = y.sub ∧ x.point = y.point ∧ z = ⟨x.sub, y.sup, x.point⟩ ∨
        x = y ∧ ∃ q, ⟨x.point, q⟩ ∈ steps ∧ z = ⟨x.sub, x.sup, q⟩ := by
  constructor
  · intro h
    cases h with
    | compose => exact .inl ⟨rfl, rfl, rfl⟩
    | carry hq => exact .inr ⟨rfl, _, hq, rfl⟩
  · obtain ⟨a, b, p⟩ := x
    obtain ⟨c, d, q⟩ := y
    rintro (⟨hregion, hpoint, rfl⟩ | ⟨heq, q, hq, rfl⟩)
    · cases hregion
      cases hpoint
      exact .compose
    · cases heq
      exact .carry hq

theorem Requirement.derives_iff {inclusions : Relation Inclusion} {steps : Relation Step}
    {kills : Relation Kill} {x z : Requirement} :
    Requirement.Derives inclusions steps kills x z ↔
      (∃ b, ⟨x.region, b, x.point⟩ ∈ inclusions ∧ z = ⟨b, x.loan, x.point⟩) ∨
        ⟨x.loan, x.point⟩ ∉ kills ∧ ∃ q, ⟨x.point, q⟩ ∈ steps ∧ z = ⟨x.region, x.loan, q⟩ := by
  constructor
  · intro h
    cases h with
    | flow hi => exact .inl ⟨_, hi, rfl⟩
    | carry hq hk => exact .inr ⟨hk, _, hq, rfl⟩
  · rintro (⟨b, hi, rfl⟩ | ⟨hk, q, hq, rfl⟩)
    · exact .flow hi
    · exact .carry hq hk

/-! ## Renamed inputs -/

/-- The inclusion between renamed regions. -/
def Inclusion.rename (f : Region → Region) (x : Inclusion) : Inclusion :=
  ⟨f x.sub, f x.sup, x.point⟩

/-- The requirement with its region and its loan renamed. -/
def Requirement.rename (f : Region → Region) (g : Loan → Loan) (x : Requirement) : Requirement :=
  ⟨f x.region, g x.loan, x.point⟩

namespace Inputs

/-- The second inputs are the first with other numbers for regions and loans, and different numbers stay different. -/
structure Renamed (f : Region → Region) (g : Loan → Loan) (i j : Inputs) : Prop where
  mem_rows : ∀ row, row ∈ j.rows ↔ ∃ r ∈ i.rows, r.map f g = row
  region_eq : ∀ {a b}, a ∈ i.regions → b ∈ i.regions → f a = f b → a = b
  loan_eq : ∀ {x y}, x ∈ i.loans → y ∈ i.loans → g x = g y → x = y

variable {i : Inputs}

namespace Renamed

variable {f : Region → Region} {g : Loan → Loan} {j : Inputs}

theorem mem_steps (h : Renamed f g i j) {p q : Point} : ⟨p, q⟩ ∈ j.steps ↔ ⟨p, q⟩ ∈ i.steps := by
  refine Inputs.mem_rows.symm.trans ((h.mem_rows (.step p q)).trans ⟨?_, ?_⟩)
  · rintro ⟨r, hr, heq⟩
    cases r <;> cases heq
    exact Inputs.mem_rows.1 hr
  · intro hstep
    exact ⟨.step p q, Inputs.mem_rows.2 hstep, rfl⟩

theorem mem_inclusions (h : Renamed f g i j) (x : Inclusion) :
    x ∈ j.inclusions ↔ ∃ y ∈ i.inclusions, y.rename f = x := by
  obtain ⟨a, b, p⟩ := x
  refine Inputs.mem_rows.symm.trans ((h.mem_rows (.inclusion a b p)).trans ⟨?_, ?_⟩)
  · rintro ⟨r, hr, heq⟩
    cases r <;> cases heq
    exact ⟨_, Inputs.mem_rows.1 hr, rfl⟩
  · rintro ⟨y, hy, heq⟩
    cases heq
    exact ⟨.inclusion y.sub y.sup y.point, Inputs.mem_rows.2 hy, rfl⟩

theorem mem_borrows (h : Renamed f g i j) (x : Requirement) :
    x ∈ j.borrows ↔ ∃ y ∈ i.borrows, y.rename f g = x := by
  obtain ⟨a, l, p⟩ := x
  refine Inputs.mem_rows.symm.trans ((h.mem_rows (.borrow a l p)).trans ⟨?_, ?_⟩)
  · rintro ⟨r, hr, heq⟩
    cases r <;> cases heq
    exact ⟨_, Inputs.mem_rows.1 hr, rfl⟩
  · rintro ⟨y, hy, heq⟩
    cases heq
    exact ⟨.borrow y.region y.loan y.point, Inputs.mem_rows.2 hy, rfl⟩

theorem mem_live (h : Renamed f g i j) {r' : Region} {p : Point} :
    ⟨r', p⟩ ∈ j.live ↔ ∃ r, ⟨r, p⟩ ∈ i.live ∧ f r = r' := by
  refine Inputs.mem_rows.symm.trans ((h.mem_rows (.liveness r' p)).trans ⟨?_, ?_⟩)
  · rintro ⟨r, hr, heq⟩
    cases r <;> cases heq
    exact ⟨_, Inputs.mem_rows.1 hr, rfl⟩
  · rintro ⟨r, hr, rfl⟩
    exact ⟨.liveness r p, Inputs.mem_rows.2 hr, rfl⟩

theorem mem_kills (h : Renamed f g i j) {l' : Loan} {p : Point} :
    ⟨l', p⟩ ∈ j.kills ↔ ∃ l, ⟨l, p⟩ ∈ i.kills ∧ g l = l' := by
  refine Inputs.mem_rows.symm.trans ((h.mem_rows (.kill l' p)).trans ⟨?_, ?_⟩)
  · rintro ⟨r, hr, heq⟩
    cases r <;> cases heq
    exact ⟨_, Inputs.mem_rows.1 hr, rfl⟩
  · rintro ⟨l, hl, rfl⟩
    exact ⟨.kill l p, Inputs.mem_rows.2 hl, rfl⟩

theorem mem_invalidations (h : Renamed f g i j) {l' : Loan} {p : Point} :
    ⟨p, l'⟩ ∈ j.invalidations ↔ ∃ l, ⟨p, l⟩ ∈ i.invalidations ∧ g l = l' := by
  refine Inputs.mem_rows.symm.trans ((h.mem_rows (.invalidation p l')).trans ⟨?_, ?_⟩)
  · rintro ⟨r, hr, heq⟩
    cases r <;> cases heq
    exact ⟨_, Inputs.mem_rows.1 hr, rfl⟩
  · rintro ⟨l, hl, rfl⟩
    exact ⟨.invalidation p l, Inputs.mem_rows.2 hl, rfl⟩

/-! ### Inclusions -/

theorem rename_inclusion_eq (h : Renamed f g i j) {x y : Inclusion}
    (hx : (inclusionDeduction i.steps i.inclusions).Possible x)
    (hy : (inclusionDeduction i.steps i.inclusions).Possible y) (heq : x.rename f = y.rename f) :
    x = y := by
  obtain ⟨hsub, hsup, -⟩ := mentions_of_possible_inclusion hx
  obtain ⟨hsub', hsup', -⟩ := mentions_of_possible_inclusion hy
  obtain ⟨a, b, p⟩ := x
  obtain ⟨a', b', p'⟩ := y
  simp only [Inclusion.rename, Inclusion.mk.injEq] at heq ⊢
  exact ⟨h.region_eq hsub hsub' heq.1, h.region_eq hsup hsup' heq.2.1, heq.2.2⟩

theorem renames_inclusions (h : Renamed f g i j) :
    Deduction.Renames (Inclusion.rename f) (inclusionDeduction i.steps i.inclusions) i.inclusions
      (inclusionDeduction j.steps j.inclusions) j.inclusions where
  possible := possible_inclusion_of_mem
  eq_of_eq := h.rename_inclusion_eq
  mem_seed := h.mem_inclusions
  derives_iff := by
    intro x y hx hy z
    show Inclusion.Derives j.steps (x.rename f) (y.rename f) z ↔
      ∃ a, Inclusion.Derives i.steps x y a ∧ a.rename f = z
    simp only [Inclusion.derives_iff, h.mem_steps]
    constructor
    · rintro (⟨hregion, hpoint, rfl⟩ | ⟨heq, q, hq, rfl⟩)
      · -- regions that meet after renaming met before
        have hmeet := h.region_eq (mentions_of_possible_inclusion hx).2.1
          (mentions_of_possible_inclusion hy).1 hregion
        exact ⟨_, .inl ⟨hmeet, hpoint, rfl⟩, rfl⟩
      · exact ⟨_, .inr ⟨h.rename_inclusion_eq hx hy heq, q, hq, rfl⟩, rfl⟩
    · rintro ⟨_, ⟨hregion, hpoint, rfl⟩ | ⟨rfl, q, hq, rfl⟩, rfl⟩
      · exact .inl ⟨congrArg f hregion, hpoint, rfl⟩
      · exact .inr ⟨rfl, q, hq, rfl⟩

theorem passes_inclusionCourse (h : Renamed f g i j) :
    j.inclusionCourse.passes = i.inclusionCourse.passes :=
  h.renames_inclusions.passes_eq inclusionCourse_covers i.stop_inclusionCourse inclusionCourse_covers
    j.stop_inclusionCourse

theorem mem_inclusionClosure (h : Renamed f g i j) (x : Inclusion) :
    x ∈ j.inclusionClosure ↔ ∃ y ∈ i.inclusionClosure, y.rename f = x :=
  h.renames_inclusions.mem_last_iff inclusionCourse_covers i.stop_inclusionCourse
    inclusionCourse_covers j.stop_inclusionCourse x

/-! ### Requirements -/

theorem rename_requirement_eq (h : Renamed f g i j) {x y : Requirement}
    (hx : (requirementDeduction i.inclusionClosure i.steps i.kills i.borrows).Possible x)
    (hy : (requirementDeduction i.inclusionClosure i.steps i.kills i.borrows).Possible y)
    (heq : x.rename f g = y.rename f g) : x = y := by
  obtain ⟨hregion, hloan, -⟩ := mentions_of_possible_requirement hx
  obtain ⟨hregion', hloan', -⟩ := mentions_of_possible_requirement hy
  obtain ⟨a, l, p⟩ := x
  obtain ⟨a', l', p'⟩ := y
  simp only [Requirement.rename, Requirement.mk.injEq] at heq ⊢
  exact ⟨h.region_eq hregion hregion' heq.1, h.loan_eq hloan hloan' heq.2.1, heq.2.2⟩

theorem mem_kills_iff (h : Renamed f g i j) {l : Loan} (hl : l ∈ i.loans) {p : Point} :
    ⟨g l, p⟩ ∈ j.kills ↔ ⟨l, p⟩ ∈ i.kills := by
  rw [h.mem_kills]
  constructor
  · rintro ⟨l', hkill, heq⟩
    rwa [← h.loan_eq (mentions_of_mem_kills hkill).1 hl heq]
  · exact fun hkill => ⟨l, hkill, rfl⟩

theorem renames_requirements (h : Renamed f g i j) :
    Deduction.Renames (Requirement.rename f g)
      (requirementDeduction i.inclusionClosure i.steps i.kills i.borrows) i.borrows
      (requirementDeduction j.inclusionClosure j.steps j.kills j.borrows) j.borrows where
  possible := possible_requirement_of_mem
  eq_of_eq := h.rename_requirement_eq
  mem_seed := h.mem_borrows
  derives_iff := by
    intro x y hx hy z
    obtain ⟨hregion, hloan, -⟩ := mentions_of_possible_requirement hx
    show x.rename f g = y.rename f g ∧ Requirement.Derives _ _ _ (x.rename f g) z ↔
      ∃ a, (x = y ∧ Requirement.Derives _ _ _ x a) ∧ a.rename f g = z
    simp only [Requirement.derives_iff, h.mem_steps]
    constructor
    · rintro ⟨heq, ⟨b, hb, rfl⟩ | ⟨hkill, q, hq, rfl⟩⟩
      · obtain ⟨⟨a, b', p⟩, hb', hrename⟩ := (h.mem_inclusionClosure _).1 hb
        have ha := (mentions_of_mem_inclusionClosure hb').1
        simp only [Inclusion.rename, Requirement.rename, Inclusion.mk.injEq] at hrename
        obtain ⟨hregions, rfl, rfl⟩ := hrename
        obtain rfl := h.region_eq ha hregion hregions
        exact ⟨_, ⟨h.rename_requirement_eq hx hy heq, .inl ⟨b', hb', rfl⟩⟩, rfl⟩
      · have hkill : ⟨x.loan, x.point⟩ ∉ i.kills := mt (h.mem_kills_iff hloan).2 hkill
        exact ⟨_, ⟨h.rename_requirement_eq hx hy heq, .inr ⟨hkill, q, hq, rfl⟩⟩, rfl⟩
    · rintro ⟨_, ⟨rfl, ⟨b, hb, rfl⟩ | ⟨hkill, q, hq, rfl⟩⟩, rfl⟩
      · exact ⟨rfl, .inl ⟨f b, (h.mem_inclusionClosure _).2 ⟨_, hb, rfl⟩, rfl⟩⟩
      · exact ⟨rfl, .inr ⟨mt (h.mem_kills_iff hloan).1 hkill, q, hq, rfl⟩⟩

theorem passes_requirementCourse (h : Renamed f g i j) :
    j.requirementCourse.passes = i.requirementCourse.passes :=
  h.renames_requirements.passes_eq i.covers_requirementCourse i.stop_requirementCourse
    j.covers_requirementCourse j.stop_requirementCourse

theorem mem_requirementClosure (h : Renamed f g i j) (x : Requirement) :
    x ∈ j.requirementClosure ↔ ∃ y ∈ i.requirementClosure, y.rename f g = x :=
  h.renames_requirements.mem_last_iff i.covers_requirementCourse i.stop_requirementCourse
    j.covers_requirementCourse j.stop_requirementCourse x

/-! ### Results -/

theorem passCounts_eq (h : Renamed f g i j) : j.passCounts = i.passCounts := by
  simp only [passCounts, h.passes_inclusionCourse, h.passes_requirementCourse]

/-- A loan is reported at a point exactly if its old number was. -/
theorem mem_keys_iff (h : Renamed f g i j) {p : Point} {l' : Loan} :
    (p, l') ∈ (Checker.saturated j).violations.map Violation.key ↔
      ∃ l, (p, l) ∈ (Checker.saturated i).violations.map Violation.key ∧ g l = l' := by
  simp only [Checker.mem_keys_violations]
  constructor
  · rintro ⟨hinvalid', r', hlive', hrequired'⟩
    obtain ⟨l, hinvalid, rfl⟩ := h.mem_invalidations.1 hinvalid'
    obtain ⟨r, hlive, rfl⟩ := h.mem_live.1 hlive'
    obtain ⟨⟨a, x, q⟩, hrequired, hrename⟩ := (h.mem_requirementClosure _).1 hrequired'
    obtain ⟨ha, hx, -⟩ := mentions_of_mem_requirementClosure hrequired
    simp only [Requirement.rename, Requirement.mk.injEq] at hrename
    obtain ⟨hregion, hloan, rfl⟩ := hrename
    have hr : a = r := h.region_eq ha (mentions_of_mem_live hlive).1 hregion
    have hl : x = l := h.loan_eq hx (mentions_of_mem_invalidations hinvalid).2 hloan
    subst hr hl
    exact ⟨x, ⟨hinvalid, a, hlive, hrequired⟩, rfl⟩
  · rintro ⟨l, ⟨hinvalid, r, hlive, hrequired⟩, rfl⟩
    exact ⟨h.mem_invalidations.2 ⟨l, hinvalid, rfl⟩, f r, h.mem_live.2 ⟨r, hlive, rfl⟩,
      (h.mem_requirementClosure _).2 ⟨_, hrequired, rfl⟩⟩

/-- The violations of renamed inputs are at the same points and of the renamed loans, and there are as many. -/
theorem perm_keys (h : Renamed f g i j) :
    ((Checker.saturated j).violations.map Violation.key).Perm
      (((Checker.saturated i).violations.map Violation.key).map fun k => (k.1, g k.2)) := by
  have hloan : ∀ k ∈ (Checker.saturated i).violations.map Violation.key, k.2 ∈ i.loans :=
    fun k hk => (mentions_of_mem_invalidations (Checker.mem_keys_violations.1 hk).1).2
  refine (List.perm_ext_iff_of_nodup (Checker.nodup_keys_violations _) ?_).2 ?_
  · refine (Checker.nodup_keys_violations _).map_on fun k hk k' hk' heq => ?_
    obtain ⟨hpoint, hrename⟩ := Prod.mk.inj heq
    exact Prod.ext hpoint (h.loan_eq (hloan k hk) (hloan k' hk') hrename)
  · rintro ⟨p, l'⟩
    rw [h.mem_keys_iff, List.mem_map]
    constructor
    · rintro ⟨l, hl, rfl⟩
      exact ⟨(p, l), hl, rfl⟩
    · rintro ⟨⟨q, l⟩, hl, heq⟩
      cases heq
      exact ⟨l, hl, rfl⟩

end Renamed

end Inputs

end LoanCheck.Solver

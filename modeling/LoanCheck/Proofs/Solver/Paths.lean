import LoanCheck.Proofs.Solver.Inclusions
import LoanCheck.Proofs.Solver.Requirements
import LoanCheck.Solver.Checker
import Mathlib.Logic.Relation

/-!
# Derived relations as paths

What the base relations of a check say about paths of control. `Inputs.Leads` follows steps, `Inputs.Carries`
follows them while a loan is not killed, and `Inputs.FlowsAt` chains given inclusions whose points lead to one
point.

Both saturated relations are path relations. A saturated inclusion is a chain at its point (`isLeast_flowsAt`).
A saturated requirement is a borrow that is carried to its point first and flows there (`isLeast_requiredAt`) :
whatever a loan flows through on the way, it can flow through at the end, since inclusions are carried along
every step.
-/

open Relation (ReflTransGen TransGen)

namespace LoanCheck.Solver

namespace Inputs

/-- Control can pass from one point to another in zero or more steps. -/
def Leads (i : Inputs) : Point → Point → Prop :=
  ReflTransGen fun p q => ⟨p, q⟩ ∈ i.steps

/-- Control can pass from one point to another, and the loan is killed at no point that it leaves. -/
def Carries (i : Inputs) (l : Loan) : Point → Point → Prop :=
  ReflTransGen fun p q => ⟨p, q⟩ ∈ i.steps ∧ ⟨l, p⟩ ∉ i.kills

/-- One region comes to another by one or more given inclusions, each at a point that leads to `p`. -/
def FlowsAt (i : Inputs) (p : Point) : Region → Region → Prop :=
  TransGen fun a b => ∃ y, ⟨a, b, y⟩ ∈ i.inclusions ∧ i.Leads y p

/-- Some borrow of the loan is carried to the point, and its region is the region or flows into it there. -/
def RequiredAt (i : Inputs) (r : Region) (l : Loan) (p : Point) : Prop :=
  ∃ r₀ p₀, ⟨r₀, l, p₀⟩ ∈ i.borrows ∧ i.Carries l p₀ p ∧ (r = r₀ ∨ i.FlowsAt p r₀ r)

variable {i : Inputs}

theorem FlowsAt.step {p q : Point} (hs : ⟨p, q⟩ ∈ i.steps) {a b : Region} (h : i.FlowsAt p a b) :
    i.FlowsAt q a b := by
  refine TransGen.mono ?_ a b h
  rintro a b ⟨y, hy, hp⟩
  exact ⟨y, hy, hp.tail hs⟩

/-! ## Inclusions -/

/-- A closed relation has its inclusions at every point that their own point leads to. -/
theorem Leads.mem_of_closed {P : Set Inclusion} (hP : Inclusion.Closed i.steps P) {a b : Region}
    {y p : Point} (h : i.Leads y p) (hy : ⟨a, b, y⟩ ∈ P) : ⟨a, b, p⟩ ∈ P := by
  induction h with
  | refl => exact hy
  | tail _ hs ih => exact hP.carry hs ih

/-- The chains of given inclusions are the least closed relation over them. -/
theorem isLeast_flowsAt (i : Inputs) :
    IsLeast {P : Set Inclusion | (∀ f ∈ i.inclusions, f ∈ P) ∧ Inclusion.Closed i.steps P}
      {f | i.FlowsAt f.point f.sub f.sup} := by
  refine ⟨⟨fun f hf => .single ⟨f.point, hf, .refl⟩, ?_⟩, ?_⟩
  · exact ⟨fun hab hbc => hab.trans hbc, fun hs hab => FlowsAt.step hs hab⟩
  · rintro P ⟨hseed, hP⟩ ⟨a, b, p⟩ (h : i.FlowsAt p a b)
    induction h with
    | single h =>
      obtain ⟨y, hy, hp⟩ := h
      exact hp.mem_of_closed hP (hseed _ hy)
    | tail _ h ih =>
      obtain ⟨y, hy, hp⟩ := h
      exact hP.compose ih (hp.mem_of_closed hP (hseed _ hy))

/-! ## Requirements -/

/-- A closed relation has its requirements at every point that they are carried to. -/
theorem Carries.mem_of_closed {inclusions : Relation Inclusion} {P : Set Requirement}
    (hP : Requirement.Closed inclusions i.steps i.kills P) {r : Region} {l : Loan} {p₀ p : Point}
    (h : i.Carries l p₀ p) (h₀ : ⟨r, l, p₀⟩ ∈ P) : ⟨r, l, p⟩ ∈ P := by
  induction h with
  | refl => exact h₀
  | tail _ hs ih => exact hP.carry hs.1 hs.2 ih

/-- Over the chains of given inclusions, what is required at the end of a path is the least closed relation
over the borrows. -/
theorem isLeast_requiredAt {inclusions : Relation Inclusion}
    (hinc : ∀ f, f ∈ inclusions ↔ i.FlowsAt f.point f.sub f.sup) :
    IsLeast {P : Set Requirement | (∀ f ∈ i.borrows, f ∈ P) ∧
      Requirement.Closed inclusions i.steps i.kills P} {f | i.RequiredAt f.region f.loan f.point} := by
  refine ⟨⟨fun f hf => ⟨f.region, f.point, hf, .refl, Or.inl rfl⟩, ?_⟩, ?_⟩
  · constructor
    · rintro a b l p hab ⟨r₀, p₀, h₀, hcarry, hflow⟩
      have hab : i.FlowsAt p a b := (hinc _).1 hab
      refine ⟨r₀, p₀, h₀, hcarry, Or.inr ?_⟩
      rcases hflow with rfl | hflow
      · exact hab
      · exact hflow.trans hab
    · rintro a l p q hs hk ⟨r₀, p₀, h₀, hcarry, hflow⟩
      exact ⟨r₀, p₀, h₀, hcarry.tail ⟨hs, hk⟩, hflow.imp id fun hflow => hflow.step hs⟩
  · rintro P ⟨hseed, hP⟩ ⟨r, l, p⟩ ⟨r₀, p₀, h₀, hcarry, hflow⟩
    have hp : ⟨r₀, l, p⟩ ∈ P := Carries.mem_of_closed hP hcarry (hseed _ h₀)
    rcases hflow with h | hflow
    · rw [show r = r₀ from h]
      exact hp
    · exact hP.flow ((hinc ⟨r₀, r, p⟩).2 hflow) hp

end Inputs

end LoanCheck.Solver

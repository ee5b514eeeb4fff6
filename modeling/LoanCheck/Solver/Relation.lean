import Std.Data.ExtTreeSet

/-!
# Facts and relations

The facts a borrow check starts from and the facts it derives. Regions, loans and points are plain
integers; a fact has one column for each thing it is about, and facts of one kind are ordered column by
column. A relation is a finite set of facts of one kind. Relations with the same members are equal, and
`toList` lists the members in ascending order.
-/

namespace LoanCheck.Solver

abbrev Point := Int
abbrev Loan := Int
abbrev Region := Int

/-- Control can pass from one point to another. -/
structure Step where
  src : Point
  dst : Point
deriving DecidableEq, Repr

/-- At a point, one region flows into another. -/
structure Inclusion where
  sub : Region
  sup : Region
  point : Point
deriving DecidableEq, Repr

/-- At a point, a region depends on a loan. -/
structure Requirement where
  region : Region
  loan : Loan
  point : Point
deriving DecidableEq, Repr

/-- A region at a point. -/
structure Place where
  region : Region
  point : Point
deriving DecidableEq, Repr

/-- At a point, a region may still be used. -/
structure Liveness where
  region : Region
  point : Point
deriving DecidableEq, Repr

/-- At a point, a loan ends. -/
structure Kill where
  loan : Loan
  point : Point
deriving DecidableEq, Repr

/-- What happens at a point is incompatible with a loan that is alive. -/
structure Invalidation where
  point : Point
  loan : Loan
deriving DecidableEq, Repr

/-! ## Orders -/

instance : Ord Step where
  compare f g := (compare f.src g.src).then (compare f.dst g.dst)

instance : Ord Inclusion where
  compare f g :=
    (compare f.sub g.sub).then ((compare f.sup g.sup).then (compare f.point g.point))

instance : Ord Requirement where
  compare f g :=
    (compare f.region g.region).then ((compare f.loan g.loan).then (compare f.point g.point))

instance : Ord Place where
  compare f g := (compare f.region g.region).then (compare f.point g.point)

instance : Ord Liveness where
  compare f g := (compare f.region g.region).then (compare f.point g.point)

instance : Ord Kill where
  compare f g := (compare f.loan g.loan).then (compare f.point g.point)

instance : Ord Invalidation where
  compare f g := (compare f.point g.point).then (compare f.loan g.loan)

instance : Std.TransOrd Step :=
  inferInstanceAs (Std.TransCmp (compareLex (compareOn Step.src) (compareOn Step.dst)))

instance : Std.TransOrd Inclusion :=
  inferInstanceAs (Std.TransCmp (compareLex (compareOn Inclusion.sub)
    (compareLex (compareOn Inclusion.sup) (compareOn Inclusion.point))))

instance : Std.TransOrd Requirement :=
  inferInstanceAs (Std.TransCmp (compareLex (compareOn Requirement.region)
    (compareLex (compareOn Requirement.loan) (compareOn Requirement.point))))

instance : Std.TransOrd Place :=
  inferInstanceAs (Std.TransCmp (compareLex (compareOn Place.region) (compareOn Place.point)))

instance : Std.TransOrd Liveness :=
  inferInstanceAs (Std.TransCmp (compareLex (compareOn Liveness.region) (compareOn Liveness.point)))

instance : Std.TransOrd Kill :=
  inferInstanceAs (Std.TransCmp (compareLex (compareOn Kill.loan) (compareOn Kill.point)))

instance : Std.TransOrd Invalidation :=
  inferInstanceAs
    (Std.TransCmp (compareLex (compareOn Invalidation.point) (compareOn Invalidation.loan)))

/-- Two columns compare equal only if both entries are equal. -/
theorem eq_and_eq_of_compareLex {α : Type} {f g : α → Int} {a b : α}
    (h : compareLex (compareOn f) (compareOn g) a b = .eq) : f a = f b ∧ g a = g b := by
  simpa [compareLex_eq_eq, compareOn] using h

/-- Three columns compare equal only if all entries are equal. -/
theorem eq_and_eq_and_eq_of_compareLex {α : Type} {f g k : α → Int} {a b : α}
    (h : compareLex (compareOn f) (compareLex (compareOn g) (compareOn k)) a b = .eq) :
    f a = f b ∧ g a = g b ∧ k a = k b := by
  simpa [compareLex_eq_eq, compareOn] using h

instance : Std.LawfulEqOrd Step where
  eq_of_compare {a b} h := by
    obtain ⟨h₁, h₂⟩ := eq_and_eq_of_compareLex h
    cases a; cases b; simp_all

instance : Std.LawfulEqOrd Inclusion where
  eq_of_compare {a b} h := by
    obtain ⟨h₁, h₂, h₃⟩ := eq_and_eq_and_eq_of_compareLex h
    cases a; cases b; simp_all

instance : Std.LawfulEqOrd Requirement where
  eq_of_compare {a b} h := by
    obtain ⟨h₁, h₂, h₃⟩ := eq_and_eq_and_eq_of_compareLex h
    cases a; cases b; simp_all

instance : Std.LawfulEqOrd Place where
  eq_of_compare {a b} h := by
    obtain ⟨h₁, h₂⟩ := eq_and_eq_of_compareLex h
    cases a; cases b; simp_all

instance : Std.LawfulEqOrd Liveness where
  eq_of_compare {a b} h := by
    obtain ⟨h₁, h₂⟩ := eq_and_eq_of_compareLex h
    cases a; cases b; simp_all

instance : Std.LawfulEqOrd Kill where
  eq_of_compare {a b} h := by
    obtain ⟨h₁, h₂⟩ := eq_and_eq_of_compareLex h
    cases a; cases b; simp_all

instance : Std.LawfulEqOrd Invalidation where
  eq_of_compare {a b} h := by
    obtain ⟨h₁, h₂⟩ := eq_and_eq_of_compareLex h
    cases a; cases b; simp_all

/-! ## Relations -/

/-- A finite set of facts of one kind. -/
abbrev Relation (α : Type) [Ord α] := Std.ExtTreeSet α compare

namespace Relation

variable {α : Type} [Ord α] [Std.TransOrd α]

/-- The relation of the listed facts. -/
def ofList (facts : List α) : Relation α :=
  Std.ExtTreeSet.ofList facts compare

@[simp]
theorem mem_ofList [Std.LawfulEqOrd α] [DecidableEq α] {facts : List α} {a : α} :
    a ∈ ofList facts ↔ a ∈ facts := by
  rw [ofList, Std.ExtTreeSet.mem_ofList, List.contains_iff_mem]

theorem nodup_toList (s : Relation α) : s.toList.Nodup := by
  refine Std.ExtTreeSet.distinct_toList.imp fun hne heq => hne ?_
  rw [heq]
  exact Std.ReflCmp.compare_self

/-- A relation whose members are all listed is no larger than the list. -/
theorem size_le_length [Std.LawfulEqOrd α] {s : Relation α} {l : List α} (h : ∀ a ∈ s, a ∈ l) :
    s.size ≤ l.length := by
  rw [← Std.ExtTreeSet.length_toList]
  exact s.nodup_toList.length_le_of_subset fun a ha => h a (Std.ExtTreeSet.mem_toList.1 ha)

end Relation

end LoanCheck.Solver

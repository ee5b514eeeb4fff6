import LoanCheck.Solver.Checker

/-!
# The base relations as one list of rows

A row is a fact of any of the six base relations. `Row ρ l` gives regions by `ρ` and loans by `l` : numbers where
facts are stored, names where they are written, and `Row.map` goes from one to the other.

`Inputs.rows` lists the rows of all relations, one relation after the other and each in ascending order. Rows are
added by `Inputs.insert`, and inputs with the same rows are equal (`Inputs.eq_of_mem_rows`).
-/

namespace LoanCheck.Solver

/-- A row of one of the base relations. -/
inductive Row (ρ l : Type) where
  | step (src dst : Point)
  | inclusion (sub sup : ρ) (point : Point)
  | borrow (region : ρ) (loan : l) (point : Point)
  | liveness (region : ρ) (point : Point)
  | kill (loan : l) (point : Point)
  | invalidation (point : Point) (loan : l)
deriving DecidableEq

namespace Row

variable {ρ ρ' ρ'' l l' l'' : Type}

/-- The row with other regions and loans. -/
def map (f : ρ → ρ') (g : l → l') : Row ρ l → Row ρ' l'
  | step p q => step p q
  | inclusion r r' p => inclusion (f r) (f r') p
  | borrow r x p => borrow (f r) (g x) p
  | liveness r p => liveness (f r) p
  | kill x p => kill (g x) p
  | invalidation p x => invalidation p (g x)

/-- The regions, from left to right. -/
def regions : Row ρ l → List ρ
  | inclusion r r' _ => [r, r']
  | borrow r _ _ | liveness r _ => [r]
  | step _ _ | kill _ _ | invalidation _ _ => []

/-- The loans, from left to right. -/
def loans : Row ρ l → List l
  | borrow _ x _ | kill x _ | invalidation _ x => [x]
  | step _ _ | inclusion _ _ _ | liveness _ _ => []

/-- The points, from left to right. -/
def points : Row ρ l → List Point
  | step p q => [p, q]
  | inclusion _ _ p | borrow _ _ p | liveness _ p | kill _ p | invalidation p _ => [p]

@[simp] theorem regions_map (f : ρ → ρ') (g : l → l') (row : Row ρ l) :
    (row.map f g).regions = row.regions.map f := by
  cases row <;> rfl

@[simp] theorem loans_map (f : ρ → ρ') (g : l → l') (row : Row ρ l) :
    (row.map f g).loans = row.loans.map g := by
  cases row <;> rfl

@[simp] theorem points_map (f : ρ → ρ') (g : l → l') (row : Row ρ l) :
    (row.map f g).points = row.points := by
  cases row <;> rfl

theorem map_map (f : ρ → ρ') (g : l → l') (f' : ρ' → ρ'') (g' : l' → l'') (row : Row ρ l) :
    (row.map f g).map f' g' = row.map (fun r => f' (f r)) (fun x => g' (g x)) := by
  cases row <;> rfl

theorem map_congr {f f' : ρ → ρ'} {g g' : l → l'} {row : Row ρ l}
    (hf : ∀ r ∈ row.regions, f r = f' r) (hg : ∀ x ∈ row.loans, g x = g' x) :
    row.map f g = row.map f' g' := by
  cases row <;> simp_all [map, regions, loans]

theorem map_eq_self {f : ρ → ρ} {g : l → l} {row : Row ρ l} (hf : ∀ r ∈ row.regions, f r = r)
    (hg : ∀ x ∈ row.loans, g x = x) : row.map f g = row := by
  cases row <;> simp_all [map, regions, loans]

end Row

namespace Inputs

/-- All rows : relation by relation, ascending. -/
def rows (b : Inputs) : List (Row Region Loan) :=
  b.steps.toList.map (fun f => Row.step f.src f.dst) ++
    b.inclusions.toList.map (fun f => Row.inclusion f.sub f.sup f.point) ++
    b.borrows.toList.map (fun f => Row.borrow f.region f.loan f.point) ++
    b.live.toList.map (fun f => Row.liveness f.region f.point) ++
    b.kills.toList.map (fun f => Row.kill f.loan f.point) ++
    b.invalidations.toList.map (fun f => Row.invalidation f.point f.loan)

/-- The regions of all rows, with repetitions. -/
def regions (b : Inputs) : List Region :=
  b.rows.flatMap Row.regions

/-- The loans of all rows, with repetitions. -/
def loans (b : Inputs) : List Loan :=
  b.rows.flatMap Row.loans

/-- The inputs with one more row. -/
def insert (b : Inputs) : Row Region Loan → Inputs
  | .step p q => { b with steps := b.steps.insert ⟨p, q⟩ }
  | .inclusion r r' p => { b with inclusions := b.inclusions.insert ⟨r, r', p⟩ }
  | .borrow r x p => { b with borrows := b.borrows.insert ⟨r, x, p⟩ }
  | .liveness r p => { b with live := b.live.insert ⟨r, p⟩ }
  | .kill x p => { b with kills := b.kills.insert ⟨x, p⟩ }
  | .invalidation p x => { b with invalidations := b.invalidations.insert ⟨p, x⟩ }

/-- A row is listed if it is a fact of its relation. -/
theorem mem_rows {b : Inputs} {row : Row Region Loan} : row ∈ b.rows ↔
    match row with
    | .step p q => ⟨p, q⟩ ∈ b.steps
    | .inclusion r r' p => ⟨r, r', p⟩ ∈ b.inclusions
    | .borrow r x p => ⟨r, x, p⟩ ∈ b.borrows
    | .liveness r p => ⟨r, p⟩ ∈ b.live
    | .kill x p => ⟨x, p⟩ ∈ b.kills
    | .invalidation p x => ⟨p, x⟩ ∈ b.invalidations := by
  cases row <;> simp [rows]
  all_goals
    refine ⟨fun ⟨f, hf, heq⟩ => ?_, fun h => ⟨_, h, by simp⟩⟩
    cases f
    simp_all

@[simp] theorem rows_empty : ({} : Inputs).rows = [] :=
  rfl

theorem mem_rows_insert {b : Inputs} {row row' : Row Region Loan} :
    row ∈ (b.insert row').rows ↔ row = row' ∨ row ∈ b.rows := by
  cases row <;> cases row' <;>
    simp [mem_rows, insert, Std.ExtTreeSet.mem_insert, Std.LawfulEqCmp.compare_eq_iff_eq] <;> grind

/-- Inputs with the same rows are equal. -/
theorem eq_of_mem_rows {b b' : Inputs} (h : ∀ row, row ∈ b.rows ↔ row ∈ b'.rows) : b = b' := by
  obtain ⟨steps, inclusions, borrows, live, kills, invalidations⟩ := b
  obtain ⟨steps', inclusions', borrows', live', kills', invalidations'⟩ := b'
  simp only [mem_rows] at h
  congr
  · exact Std.ExtTreeSet.ext_mem fun f => h (.step f.src f.dst)
  · exact Std.ExtTreeSet.ext_mem fun f => h (.inclusion f.sub f.sup f.point)
  · exact Std.ExtTreeSet.ext_mem fun f => h (.borrow f.region f.loan f.point)
  · exact Std.ExtTreeSet.ext_mem fun f => h (.liveness f.region f.point)
  · exact Std.ExtTreeSet.ext_mem fun f => h (.kill f.loan f.point)
  · exact Std.ExtTreeSet.ext_mem fun f => h (.invalidation f.point f.loan)

end Inputs

end LoanCheck.Solver

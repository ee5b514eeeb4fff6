import Mathlib.Data.List.Forall2
import Mathlib.Data.List.Nodup

/-!
# Results and lists

A computation that may fail gives a result exactly if each of its steps does (`bind_eq_ok`, `map_eq_ok`). Over
a list it gives one result for each element (`mapM_eq_ok`), or it fails at the first element that it fails at
(`mapM_eq_error`). In a table with distinct keys a look-up does not depend on the order
(`lookup_eq_some_iff_mem`).
-/

namespace LoanCheck

/-! ## Results -/

namespace Results

variable {ε α β : Type}

theorem bind_eq_ok {x : Except ε α} {f : α → Except ε β} {b : β} :
    x >>= f = .ok b ↔ ∃ a, x = .ok a ∧ f a = .ok b := by
  cases x with
  | error e => exact ⟨nofun, nofun⟩
  | ok a => exact ⟨fun h => ⟨a, rfl, h⟩, fun ⟨_, ha, h⟩ => by cases ha; exact h⟩

theorem map_eq_ok {x : Except ε α} {f : α → β} {b : β} :
    f <$> x = .ok b ↔ ∃ a, x = .ok a ∧ f a = b := by
  cases x with
  | error e => exact ⟨nofun, nofun⟩
  | ok a => exact ⟨fun h => ⟨a, rfl, Except.ok.inj h⟩, fun ⟨_, ha, h⟩ => by cases ha; rw [← h]; rfl⟩

theorem map_eq_error {x : Except ε α} {f : α → β} {e : ε} : f <$> x = .error e ↔ x = .error e := by
  cases x with
  | error e' => exact ⟨fun h => by cases h; rfl, fun h => by cases h; rfl⟩
  | ok a => exact ⟨nofun, nofun⟩

end Results

theorem eq_ok_of_toOption {ε α : Type} {x : Except ε α} {a : α} (h : x.toOption = some a) : x = .ok a := by
  cases x with
  | error _ => cases h
  | ok _ => cases h; rfl

/-! ## Lists -/

section Lists

open Results

variable {α β : Type} {R : α → β → Prop} {xs : List α} {ys : List β}

theorem exists_mem_of_forall₂ (h : List.Forall₂ R xs ys) {y : β} (hy : y ∈ ys) : ∃ x ∈ xs, R x y := by
  induction h with
  | nil => cases hy
  | cons hxy _ ih =>
    rcases List.mem_cons.1 hy with rfl | hy
    · exact ⟨_, List.mem_cons_self, hxy⟩
    · obtain ⟨x, hx, h⟩ := ih hy
      exact ⟨x, List.mem_cons_of_mem _ hx, h⟩

theorem exists_forall₂_of_forall_mem (h : ∀ x ∈ xs, ∃ y, R x y) : ∃ ys, List.Forall₂ R xs ys := by
  induction xs with
  | nil => exact ⟨[], .nil⟩
  | cons x xs ih =>
    obtain ⟨y, hy⟩ := h x List.mem_cons_self
    obtain ⟨ys, hys⟩ := ih fun x hx => h x (List.mem_cons_of_mem _ hx)
    exact ⟨y :: ys, .cons hy hys⟩

variable {ε : Type} {f : α → Except ε β}

theorem mapM_eq_ok : xs.mapM f = .ok ys ↔ List.Forall₂ (fun x y => f x = .ok y) xs ys := by
  induction xs generalizing ys with
  | nil =>
    rw [List.mapM_nil, List.forall₂_nil_left_iff]
    exact ⟨fun h => by cases h; rfl, fun h => by rw [h]; rfl⟩
  | cons x xs ih =>
    simp only [List.mapM_cons, bind_eq_ok, List.forall₂_cons_left_iff, ih]
    constructor
    · rintro ⟨y, hy, ys, hys, h⟩
      cases h
      exact ⟨y, ys, hy, hys, rfl⟩
    · rintro ⟨y, ys, hy, hys, rfl⟩
      exact ⟨y, hy, ys, hys, rfl⟩

/-- The fault of a list is that of the first element at fault. -/
theorem mapM_eq_error {e : ε} : xs.mapM f = .error e ↔
    ∃ before x after, xs = before ++ x :: after ∧ (∀ y ∈ before, ∃ b, f y = .ok b) ∧ f x = .error e := by
  induction xs with
  | nil => exact ⟨nofun, fun ⟨before, _, _, h, _⟩ => by cases before <;> cases h⟩
  | cons x xs ih =>
    rw [List.mapM_cons]
    cases hx : f x with
    | error e' =>
      constructor
      · intro h
        cases h
        exact ⟨[], x, xs, rfl, nofun, hx⟩
      · rintro ⟨_ | ⟨y, before⟩, z, after, hsplit, hbefore, hz⟩
        · cases hsplit
          rw [hx] at hz
          cases hz
          rfl
        · cases hsplit
          obtain ⟨b, hb⟩ := hbefore x List.mem_cons_self
          rw [hx] at hb
          cases hb
    | ok b =>
      have hrest : (do let ys ← xs.mapM f; pure (b :: ys)) = .error e ↔ xs.mapM f = .error e := map_eq_error
      refine hrest.trans (ih.trans ?_)
      constructor
      · rintro ⟨before, z, after, rfl, hbefore, hz⟩
        exact ⟨x :: before, z, after, rfl, List.forall_mem_cons.2 ⟨⟨b, hx⟩, hbefore⟩, hz⟩
      · rintro ⟨_ | ⟨y, before⟩, z, after, hsplit, hbefore, hz⟩
        · cases hsplit
          rw [hx] at hz
          cases hz
        · cases hsplit
          exact ⟨before, z, after, rfl, fun y hy => hbefore y (List.mem_cons_of_mem _ hy), hz⟩

end Lists

/-! ## Tables -/

/-- In a table with distinct keys a look-up gives the entry of a key. -/
theorem lookup_eq_some_iff_mem {α β : Type} [BEq α] [LawfulBEq α] {table : List (α × β)} {key : α} {value : β}
    (h : (table.map Prod.fst).Nodup) : table.lookup key = some value ↔ (key, value) ∈ table := by
  have hmem : ∀ v, table.lookup key = some v → (key, v) ∈ table := fun v hv => by
    obtain ⟨before, after, rfl, -⟩ := List.lookup_eq_some_iff.1 hv
    simp
  refine ⟨hmem value, fun hentry => ?_⟩
  cases hlookup : table.lookup key with
  | none => simpa using List.lookup_eq_none_iff.1 hlookup _ hentry
  | some v => exact congrArg (some ·.2) (List.inj_on_of_nodup_map h (hmem v hlookup) hentry rfl)

theorem lookup_eq_of_perm {α β : Type} [BEq α] [LawfulBEq α] {table table' : List (α × β)}
    (h : (table.map Prod.fst).Nodup) (hperm : table.Perm table') (key : α) : table'.lookup key = table.lookup key := by
  have h' : (table'.map Prod.fst).Nodup := (hperm.map Prod.fst).nodup_iff.1 h
  refine Option.ext fun value => ?_
  rw [lookup_eq_some_iff_mem h', lookup_eq_some_iff_mem h, hperm.mem_iff]

end LoanCheck

import LoanCheck.Proofs.Solver.Mentions
import Mathlib.Data.List.Nodup

/-!
# Walks

A walk is a path along a relation together with the number of its steps. Walks can be put together (`Walk.append`) and
cut anywhere (`Walk.exists_of_add`).

A shortest walk comes to every place on it as soon as can be, and so to none of them twice
(`exists_places_of_isLeast`). What can be reached at all is reached in fewer steps than there are places
(`exists_walk_lt_length`). For the walks of control the places are the known points.
-/

namespace LoanCheck

/-- Steps of the relation, `n` in number, lead from one place to another. -/
inductive Walk {α : Type} (R : α → α → Prop) : ℕ → α → α → Prop where
  | refl {a : α} : Walk R 0 a a
  | step {n : ℕ} {a b c : α} : R a b → Walk R n b c → Walk R (n + 1) a c

variable {α : Type} {R : α → α → Prop} {a b c : α} {m n : ℕ}

namespace Walk

theorem append (hab : Walk R m a b) (hbc : Walk R n b c) : Walk R (m + n) a c := by
  induction hab with
  | refl => rwa [Nat.zero_add]
  | step hs _ ih =>
    rw [Nat.add_right_comm]
    exact .step hs (ih hbc)

theorem tail (hab : Walk R n a b) (hs : R b c) : Walk R (n + 1) a c :=
  hab.append (.step hs .refl)

theorem mono {S : α → α → Prop} (hRS : ∀ a b, R a b → S a b) (h : Walk R n a b) : Walk S n a b := by
  induction h with
  | refl => exact .refl
  | step hs _ ih => exact .step (hRS _ _ hs) ih

theorem exists_of_add (h : Walk R (m + n) a c) : ∃ b, Walk R m a b ∧ Walk R n b c := by
  induction m generalizing a with
  | zero =>
    rw [Nat.zero_add] at h
    exact ⟨a, .refl, h⟩
  | succ m ih =>
    rw [Nat.add_right_comm] at h
    cases h with
    | step hs h =>
      obtain ⟨b, hab, hbc⟩ := ih h
      exact ⟨b, .step hs hab, hbc⟩

theorem exists_of_succ (h : Walk R (n + 1) a c) : ∃ b, Walk R n a b ∧ R b c := by
  obtain ⟨b, hab, hbc⟩ := h.exists_of_add
  cases hbc with
  | step hs h =>
    cases h
    exact ⟨b, hab, hs⟩

end Walk

theorem exists_walk_of_reflTransGen (h : Relation.ReflTransGen R a b) : ∃ n, Walk R n a b := by
  induction h with
  | refl => exact ⟨0, .refl⟩
  | tail _ hs ih =>
    obtain ⟨n, hn⟩ := ih
    exact ⟨n + 1, hn.tail hs⟩

/-! ## Shortest walks -/

theorem Walk.exists_isLeast (h : Walk R n a b) : ∃ m, IsLeast {k | Walk R k a b} m := by
  classical
  have hex : ∃ m, Walk R m a b := ⟨n, h⟩
  exact ⟨Nat.find hex, Nat.find_spec hex, fun k hk => Nat.find_min' hex hk⟩

/-- The places on a shortest walk of `n` steps are `n + 1` in number, each of them reached by fewer steps than the next
one. -/
theorem exists_places_of_isLeast (h : IsLeast {k | Walk R k a b} n) :
    ∃ places : List α, places.length = n + 1 ∧ places.Nodup ∧
      ∀ c ∈ places, (c = a ∨ ∃ d, R d c) ∧ ∃ m ≤ n, Walk R m a c := by
  induction n generalizing b with
  | zero =>
    refine ⟨[a], rfl, List.nodup_singleton a, fun c hc => ?_⟩
    obtain rfl := List.mem_singleton.1 hc
    exact ⟨.inl rfl, 0, le_rfl, .refl⟩
  | succ n ih =>
    obtain ⟨c, hac, hcb⟩ := Walk.exists_of_succ h.1
    have hc : IsLeast {k | Walk R k a c} n :=
      ⟨hac, fun k hk => Nat.le_of_succ_le_succ (h.2 (Walk.tail hk hcb))⟩
    obtain ⟨places, hlength, hnodup, hplaces⟩ := ih hc
    have hnew : b ∉ places := by
      intro hb
      obtain ⟨-, m, hm, hwalk⟩ := hplaces b hb
      have hle : n + 1 ≤ m := h.2 hwalk
      omega
    refine ⟨b :: places, by rw [List.length_cons, hlength], List.nodup_cons.2 ⟨hnew, hnodup⟩, fun d hd => ?_⟩
    rcases List.mem_cons.1 hd with rfl | hd
    · exact ⟨.inr ⟨c, hcb⟩, n + 1, le_rfl, h.1⟩
    · obtain ⟨hentered, m, hm, hwalk⟩ := hplaces d hd
      exact ⟨hentered, m, hm.trans n.le_succ, hwalk⟩

/-- Where all places are listed, a walk needs fewer steps than there are entries. -/
theorem exists_walk_lt_length {places : List α} (ha : a ∈ places) (hplaces : ∀ b c, R b c → c ∈ places)
    (h : Relation.ReflTransGen R a b) : ∃ n < places.length, Walk R n a b := by
  obtain ⟨_, hwalk⟩ := exists_walk_of_reflTransGen h
  obtain ⟨n, hn⟩ := hwalk.exists_isLeast
  obtain ⟨visited, hlength, hnodup, hvisited⟩ := exists_places_of_isLeast hn
  refine ⟨n, ?_, hn.1⟩
  rw [← Nat.succ_le_iff, Nat.succ_eq_add_one, ← hlength]
  refine hnodup.length_le_of_subset fun c hc => ?_
  rcases (hvisited c hc).1 with rfl | ⟨d, hd⟩
  · exact ha
  · exact hplaces d c hd

/-! ## Walks of control -/

namespace Solver.Inputs

/-- Control can pass from one point to another in `n` steps. -/
def LeadsIn (i : Inputs) : ℕ → Point → Point → Prop :=
  Walk fun p q => ⟨p, q⟩ ∈ i.steps

/-- Control can pass from one point to another in `n` steps, and the loan is killed at no point that it leaves. -/
def CarriesIn (i : Inputs) (l : Loan) : ℕ → Point → Point → Prop :=
  Walk fun p q => ⟨p, q⟩ ∈ i.steps ∧ ⟨l, p⟩ ∉ i.kills

variable {i : Inputs} {l : Loan} {p q : Point}

theorem Leads.exists_lt (h : i.Leads p q) (hp : p ∈ i.knownPoints) : ∃ n < i.knownPoints.length, i.LeadsIn n p q :=
  exists_walk_lt_length hp (fun _ _ hs => mem_knownPoints.2 (mentions_of_mem_steps hs).2) h

theorem Carries.exists_lt (h : i.Carries l p q) (hp : p ∈ i.knownPoints) :
    ∃ n < i.knownPoints.length, i.CarriesIn l n p q :=
  exists_walk_lt_length hp (fun _ _ hs => mem_knownPoints.2 (mentions_of_mem_steps hs.1).2) h

end Solver.Inputs

end LoanCheck

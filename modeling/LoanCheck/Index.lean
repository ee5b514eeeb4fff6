import Std.Data.ExtTreeMap

/-!
# Positions and indexes

A position in a list counts from the front, or from the end if it is negative.

An index groups the values of a list of pairs by their keys, so that the values of one key are found
without a search through the list. `get_ofPairs` says that it finds what the search would find.
-/

namespace LoanCheck

/-- The item at a position. Negative positions count from the end. -/
def itemAt? {α : Type} (items : List α) (i : Int) : Option α :=
  let position := if i < 0 then i + items.length else i
  if position < 0 then none else items[position.toNat]?

/-- Values grouped by key. -/
abbrev Index (κ ν : Type) [Ord κ] := Std.ExtTreeMap κ (List ν) compare

namespace Index

variable {κ ν : Type} [Ord κ] [Std.TransOrd κ]

/-- The values of a key, in the order they were given in. -/
def get (m : Index κ ν) (k : κ) : List ν :=
  m.getD k []

/-- Puts a value in front of the values of its key. -/
def put (m : Index κ ν) (k : κ) (v : ν) : Index κ ν :=
  m.insert k (v :: m.get k)

/-- Puts a value behind the values of its key. -/
def push (m : Index κ ν) (k : κ) (v : ν) : Index κ ν :=
  m.insert k (m.get k ++ [v])

/-- The index of a list of pairs. -/
def ofPairs (pairs : List (κ × ν)) : Index κ ν :=
  pairs.foldr (fun p m => put m p.1 p.2) ∅

theorem get_put [Std.LawfulEqOrd κ] [DecidableEq κ] (m : Index κ ν) (k k' : κ) (v : ν) :
    (put m k v).get k' = if k = k' then v :: m.get k' else m.get k' := by
  by_cases h : k = k'
  · subst h
    simp [put, get]
  · simp [put, get, Std.ExtTreeMap.getD_insert, h]

theorem get_push [Std.LawfulEqOrd κ] [DecidableEq κ] (m : Index κ ν) (k k' : κ) (v : ν) :
    (push m k v).get k' = if k = k' then m.get k' ++ [v] else m.get k' := by
  by_cases h : k = k'
  · subst h
    simp [push, get]
  · simp [push, get, Std.ExtTreeMap.getD_insert, h]

theorem get_erase [Std.LawfulEqOrd κ] [DecidableEq κ] (m : Index κ ν) (k k' : κ) :
    get (m.erase k) k' = if k = k' then [] else m.get k' := by
  simp [get, Std.ExtTreeMap.getD_erase]

/-- An index finds what a search through the pairs finds. -/
theorem get_ofPairs [Std.LawfulEqOrd κ] [DecidableEq κ] (pairs : List (κ × ν)) (k : κ) :
    (ofPairs pairs).get k = (pairs.filter (·.1 = k)).map (·.2) := by
  induction pairs with
  | nil => simp [ofPairs, get]
  | cons p ps ih =>
    simp only [ofPairs, List.foldr_cons, get_put] at ih ⊢
    by_cases h : p.1 = k <;> simp [h, ih]

end Index

end LoanCheck

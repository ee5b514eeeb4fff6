import LoanCheck.Proofs.Locator.Outcomes

/-!
# Locators and their texts

The locators that some text gives are those that have a text of their own (`IsProper`) : a file, with a name and an
index or with a line and maybe a column, where the separators are in neither file nor name and the numbers can be
written. The text of such a locator has its form (`IsProper.outlined`), and is read as the same locator
(`parse_render`). All that is read is such a locator (`isProper_of_parse`), so that reading and writing again give
every text its one canonical form (`parse_render_canonical`).
-/

namespace LoanCheck.Locator

open Text Results

/-- The number can stand in the text of a locator. -/
def IsCount (i : Int) : Prop :=
  0 ≤ i ∧ isWritable i = true

/-- The locators that have a text. What belongs to the other form is not set. -/
inductive IsProper : Locator → Prop
  | symbol {file name : String} {index : Int} : file ≠ "" → name ≠ "" → '#' ∉ file.toList → '#' ∉ name.toList →
      IsCount index → IsProper { file, name := some name, index }
  | absolute {file : String} {line : Int} {column : Option Int} : file ≠ "" → '#' ∉ file.toList →
      ':' ∉ file.toList → IsCount line → (∀ c ∈ column, IsCount c) → IsProper { file, line := some line, column }

/-! ## Numbers in texts -/

namespace IsCount

variable {i : Int}

theorem toList_toString (h : IsCount i) : (toString i).toList = Nat.toDigits 10 i.toNat := by
  rw [← Int.toNat_of_nonneg h.1, toString_natCast, String.toList_ofList, Int.toNat_natCast]

/-- A number is written without separators. -/
theorem not_mem_toString (h : IsCount i) {c : Char} (hc : c.isDigit = false) : c ∉ (toString i).toList := by
  rw [h.toList_toString]
  intro hmem
  rw [Nat.isDigit_of_mem_toDigits (by decide) (by decide) hmem] at hc
  cases hc

theorem numberIn_toString (h : IsCount i) (text : String) : numberIn text (toString i) = .ok i := by
  have hdigits : isDigits (toString i) = true := by
    rw [isDigits_iff, h.toList_toString]
    exact ⟨Nat.toDigits_ne_nil, isDigit_of_placeValues (placeValues_toDigits _)⟩
  rw [numberIn, if_pos hdigits, integer_toString h.2]
  rfl

theorem of_numberIn {text part : String} (h : numberIn text part = .ok i) : IsCount i := by
  obtain ⟨⟨-, ds, -, rfl⟩, -⟩ := numberIn_eq_ok_iff.1 h
  refine ⟨Int.natCast_nonneg _, ?_⟩
  unfold numberIn at h
  split at h
  · cases hinteger : integer part with
    | ok j =>
      rw [hinteger] at h
      cases h
      exact isWritable_of_integer hinteger
    | error fault =>
      rw [hinteger] at h
      cases h
  · cases h

end IsCount

/-! ## Texts of locators -/

/-- The numbers that stand in the text of a locator. An index of zero is left out. -/
def counts (l : Locator) : List Int :=
  match l.name with
  | some _ => if l.index = 0 then [] else [l.index]
  | none => l.line.toList ++ l.column.toList

namespace IsProper

variable {l : Locator}

theorem isCount (h : l.IsProper) : ∀ i ∈ l.counts, IsCount i := by
  cases h with
  | symbol _ _ _ _ hindex =>
    intro i hi
    simp only [counts] at hi
    split at hi
    · cases hi
    · rwa [List.mem_singleton.1 hi]
  | absolute _ _ _ hline hcolumn => simpa [counts] using ⟨hline, hcolumn⟩

/-- The text of a locator has the form of one. -/
theorem outlined (h : l.IsProper) : Outlined l.render l.file l.name (l.counts.map toString) := by
  have hcount : ∀ piece ∈ l.counts.map toString, ∀ c : Char, c.isDigit = false → c ∉ piece.toList := by
    intro piece hpiece c hc
    obtain ⟨i, hi, rfl⟩ := List.mem_map.1 hpiece
    exact (h.isCount i hi).not_mem_toString hc
  have hself : ∀ t : String, toString t = t := fun _ => rfl
  cases h with
  | @symbol file name index hfile hname hsharp hsharp' _ =>
    have hrender : render { file, name := some name, index } =
        "#".intercalate (file :: name :: (counts { file, name := some name, index }).map toString) := by
      by_cases hindex : index = 0 <;> simp [render, counts, hindex, hself, ← String.toList_inj]
    rw [hrender]
    refine .symbol hfile hname ?_ ?_
    · by_cases hindex : index = 0 <;> simp [counts, hindex]
    · exact List.forall_mem_cons.2 ⟨hsharp, List.forall_mem_cons.2 ⟨hsharp',
        fun piece hpiece => hcount piece hpiece '#' rfl⟩⟩
  | @absolute file line column hfile hsharp hcolon _ _ =>
    have hrender : render { file, line := some line, column } =
        ":".intercalate (file :: (counts { file, line := some line, column }).map toString) := by
      cases column <;> simp [render, counts, hself, ← String.toList_inj]
    rw [hrender]
    refine .absolute hfile ?_ ?_
    · cases column <;> simp [counts]
    · exact List.forall_mem_cons.2 ⟨⟨hsharp, hcolon⟩,
        fun piece hpiece => ⟨hcount piece hpiece '#' rfl, hcount piece hpiece ':' rfl⟩⟩

theorem ofNumbers_counts (h : l.IsProper) : ofNumbers l.file l.name l.counts = l := by
  cases h with
  | @symbol file name index _ _ _ _ _ =>
    by_cases hindex : index = 0
    · simp [counts, ofNumbers, hindex]
    · simp [counts, ofNumbers, hindex]
  | @absolute file line column _ _ _ _ _ => cases column <;> rfl

end IsProper

/-! ## Reading and writing -/

variable {text text' : String} {l l' : Locator}

/-- A locator is read from its text. -/
theorem parse_render (h : l.IsProper) : parse l.render = .ok l := by
  have hnumbers : (l.counts.map toString).mapM (numberIn l.render) = .ok l.counts := by
    rw [mapM_eq_ok, List.forall₂_map_left_iff, List.forall₂_same]
    exact fun i hi => (h.isCount i hi).numberIn_toString l.render
  rw [h.outlined.parse_eq, hnumbers]
  exact congrArg Except.ok h.ofNumbers_counts

theorem isProper_of_parse (h : parse text = .ok l) : l.IsProper := by
  obtain ⟨file, name, numbers, hform⟩ | hformat := exists_outlined_or_parse_eq text
  · rw [hform.parse_eq, map_eq_ok] at h
    obtain ⟨values, hvalues, rfl⟩ := h
    rw [mapM_eq_ok] at hvalues
    have hcount : ∀ i ∈ values, IsCount i := fun i hi => by
      obtain ⟨part, -, hpart⟩ := exists_mem_of_forall₂ hvalues hi
      exact .of_numberIn hpart
    cases hform with
    | symbol hfile hname _ hfree =>
      obtain ⟨hsharp, hfree⟩ := List.forall_mem_cons.1 hfree
      refine .symbol hfile hname hsharp (hfree _ List.mem_cons_self) ?_
      cases values with
      | nil => exact ⟨by decide, by decide +kernel⟩
      | cons i values => exact hcount i List.mem_cons_self
    | absolute hfile hlength hfree =>
      obtain ⟨⟨hsharp, hcolon⟩, -⟩ := List.forall_mem_cons.1 hfree
      rw [hvalues.length_eq] at hlength
      cases values with
      | nil => simp at hlength
      | cons i values =>
        refine .absolute hfile hsharp hcolon (hcount i List.mem_cons_self) fun j hj => hcount j ?_
        exact List.mem_of_getElem? hj
  · rw [hformat] at h
    cases h

/-- Two texts have the same canonical form exactly if they give the same locator. -/
theorem render_eq_iff (h : parse text = .ok l) (h' : parse text' = .ok l') : l.render = l'.render ↔ l = l' := by
  refine ⟨fun heq => ?_, congrArg render⟩
  have hread := parse_render (isProper_of_parse h)
  rw [heq, parse_render (isProper_of_parse h')] at hread
  exact (Except.ok.inj hread).symm

/-- What is read from a text is read again from its canonical form, which is its own canonical form, and every locator
that has a text is read from it. -/
theorem parse_render_canonical :
    (∀ text l, parse text = .ok l → parse l.render = .ok l ∧ render <$> parse l.render = .ok l.render) ∧
    (∀ text text' l l', parse text = .ok l → parse text' = .ok l' → (l.render = l'.render ↔ l = l')) ∧
    ∀ l : Locator, l.IsProper → parse l.render = .ok l := by
  refine ⟨fun text l h => ?_, fun text text' l l' => render_eq_iff, fun l => parse_render⟩
  have hread := parse_render (isProper_of_parse h)
  exact ⟨hread, by rw [hread]; rfl⟩

/-- A colon in a file, digits of another script with zeros in front, and a column of zero. -/
theorem parse_render_canonical_scripts :
    parse "a:b#f#٠٠٢" = .ok { file := "a:b", name := some "f", index := 2 } ∧
    parse "a.c:7:0" = .ok { file := "a.c", line := some 7, column := some 0 } ∧
    parse (render { file := "a:b", name := some "f", index := 2 }) =
      .ok { file := "a:b", name := some "f", index := 2 } ∧
    render { file := "a:b", name := some "f", index := 2 } ≠
      render { file := "a.c", line := some 7, column := some 0 } ∧
    IsProper { file := "a.c", line := some 7, column := some 0 } ∧
    parse (render { file := "a.c", line := some 7, column := some 0 }) =
      .ok { file := "a.c", line := some 7, column := some 0 } := by
  obtain ⟨hagain, hcanonical, hproper⟩ := parse_render_canonical
  have hsymbol : parse "a:b#f#٠٠٢" = .ok { file := "a:b", name := some "f", index := 2 } := rfl
  have habsolute : parse "a.c:7:0" = .ok { file := "a.c", line := some 7, column := some 0 } := rfl
  have hcount : ∀ i ∈ [(7 : Int), 0], IsCount i := by
    simp only [IsCount, List.forall_mem_cons]
    decide +kernel
  have hline : IsProper { file := "a.c", line := some 7, column := some 0 } :=
    .absolute (by decide) (by decide) (by decide) (hcount 7 (by simp)) fun c hc => hcount c (by simp_all)
  refine ⟨hsymbol, habsolute, (hagain _ _ hsymbol).1, fun heq => ?_, hline, hproper _ hline⟩
  exact absurd ((hcanonical _ _ _ _ hsymbol habsolute).1 heq) (by decide)

end LoanCheck.Locator

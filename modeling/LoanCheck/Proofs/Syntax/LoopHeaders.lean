import LoanCheck.Proofs.Flow.Faults
import LoanCheck.Syntax.Lowering
import Mathlib.Data.List.Infix
import Mathlib.Data.List.ReduceOption

/-!
# The clauses of a loop header

The nodes below a `for` loop do not tell which clause they belong to, and the header is read with a count of open
brackets. What the words of a clause can be is said here without that count : every front part of them closes no more
brackets than it opens, as a whole they close all of them, and no semicolon stands outside (`IsClause`).

Over such words the count comes back to where it was, and sees whether there are any (`headerParts_append`, by
induction over the words, at any depth). So the reading finds the three clauses of a header, whatever follows it
(`forClauses_header`), the nodes are dealt out to the clauses they belong to (`deal_reduceOption`), and a loop can be
drawn exactly if it has all its clauses and its body can be drawn (`lower_forLoop`).
-/

namespace LoanCheck

open LoanCheck.Flow (draw faultOf)

namespace Syntax

/-! ## Open brackets -/

/-- By how much a word changes the number of open brackets. -/
def bracketWeight (t : String) : Int :=
  if isOpening t then 1 else if isClosing t then -1 else 0

/-- How many of the brackets that some words open they leave open. -/
def bracketDepth : List String → Int
  | [] => 0
  | t :: ts => bracketWeight t + bracketDepth ts

@[simp] theorem bracketDepth_nil : bracketDepth [] = 0 :=
  rfl

@[simp] theorem bracketDepth_cons (t : String) (ts : List String) :
    bracketDepth (t :: ts) = bracketWeight t + bracketDepth ts :=
  rfl

/-- The words between two separators of a header. -/
structure IsClause (ts : List String) : Prop where
  /-- No bracket is closed that the words did not open. -/
  nonneg : ∀ p, p <+: ts → 0 ≤ bracketDepth p
  /-- All brackets are closed in the end. -/
  closed : bracketDepth ts = 0
  /-- Every semicolon stands inside of brackets. -/
  unsplit : ∀ p, p ++ [";"] <+: ts → bracketDepth p ≠ 0

instance (ts : List String) : Decidable (IsClause ts) :=
  decidable_of_iff ((∀ p ∈ ts.inits, 0 ≤ bracketDepth p) ∧ bracketDepth ts = 0 ∧
      ∀ p ∈ ts.inits, p ++ [";"] <+: ts → bracketDepth p ≠ 0) <| by
    simp only [List.mem_inits]
    constructor
    · rintro ⟨hnonneg, hclosed, hunsplit⟩
      exact ⟨hnonneg, hclosed, fun p hp => hunsplit p ((List.prefix_append p _).trans hp) hp⟩
    · rintro ⟨hnonneg, hclosed, hunsplit⟩
      exact ⟨hnonneg, hclosed, fun p _ hp => hunsplit p hp⟩

/-! ## Reading the header -/

/-- Words that close nothing around them and have no semicolon outside of brackets are read to their end. The depth is
then what they leave open, and the part at hand counts as written if there was any word. -/
theorem headerParts_append {ts : List String} (rest : List String) : ∀ {depth : Nat} (written : Bool),
    (∀ p, p <+: ts → 0 ≤ depth + bracketDepth p) →
    (∀ p, p ++ [";"] <+: ts → depth + bracketDepth p ≠ 0) →
      headerParts depth written (ts ++ rest) =
        headerParts (depth + bracketDepth ts).toNat (written || !ts.isEmpty) rest := by
  induction ts with
  | nil => simp
  | cons t ts ih =>
    intro depth written hnonneg hunsplit
    have hstep : ∀ next : Nat, (next : Int) = depth + bracketWeight t →
        headerParts next true (ts ++ rest) =
          headerParts (depth + bracketDepth (t :: ts)).toNat (written || !(t :: ts).isEmpty) rest := by
      intro next hnext
      rw [ih true]
      · simp [hnext, Int.add_assoc]
      · intro p hp
        simpa [hnext, Int.add_assoc] using hnonneg (t :: p) (List.cons_prefix_cons.2 ⟨rfl, hp⟩)
      · intro p hp
        simpa [hnext, Int.add_assoc] using hunsplit (t :: p) (List.cons_prefix_cons.2 ⟨rfl, hp⟩)
    have hfirst := hnonneg [t] (List.cons_prefix_cons.2 ⟨rfl, List.nil_prefix⟩)
    rw [bracketDepth_cons, bracketDepth_nil, Int.add_zero] at hfirst
    rw [List.cons_append, headerParts.eq_def]
    dsimp only
    by_cases hopen : isOpening t
    · rw [if_pos hopen]
      exact hstep _ (by simp [bracketWeight, hopen])
    rw [if_neg hopen]
    by_cases hclose : isClosing t
    · have hweight : bracketWeight t = -1 := by simp [bracketWeight, hopen, hclose]
      rw [if_pos hclose]
      cases depth with
      | zero => omega
      | succ d => exact hstep d (by omega)
    rw [if_neg hclose]
    have hweight : bracketWeight t = 0 := by simp [bracketWeight, hopen, hclose]
    rw [if_neg]
    · exact hstep depth (by omega)
    · intro hsemicolon
      simp only [Bool.and_eq_true, decide_eq_true_eq] at hsemicolon
      have := hunsplit [] (List.cons_prefix_cons.2 ⟨hsemicolon.1.symm, List.nil_prefix⟩)
      simp [hsemicolon.2] at this

theorem IsClause.headerParts_append {ts : List String} (h : IsClause ts) (rest : List String) :
    headerParts 0 false (ts ++ rest) = headerParts 0 (!ts.isEmpty) rest := by
  rw [Syntax.headerParts_append rest false (by simpa using h.nonneg) (by simpa using h.unsplit), h.closed]
  rfl

theorem headerParts_semicolon (written : Bool) (rest : List String) :
    headerParts 0 written (";" :: rest) = written :: headerParts 0 false rest :=
  rfl

theorem headerParts_end (written : Bool) (rest : List String) : headerParts 0 written (")" :: rest) = [written] :=
  rfl

/-- A header is read up to the bracket that closes it, and each clause counts as written if it has any words. -/
theorem forClauses_header {before init condition increment : List String} (rest : List String)
    (hbefore : "(" ∉ before) (hinit : IsClause init) (hcondition : IsClause condition)
    (hincrement : IsClause increment) :
    forClauses (before ++ ["("] ++ init ++ [";"] ++ condition ++ [";"] ++ increment ++ [")"] ++ rest) =
      ⟨!init.isEmpty, !condition.isEmpty, !increment.isEmpty⟩ := by
  have hdrop (after : List String) : (before ++ "(" :: after).dropWhile (· ≠ "(") = "(" :: after := by
    rw [List.dropWhile_append_of_pos, List.dropWhile_cons_of_neg (by simp)]
    intro t ht
    simpa using fun heq : t = "(" => hbefore (heq ▸ ht)
  simp only [List.append_assoc, List.cons_append, List.nil_append]
  rw [forClauses, hdrop]
  simp only [hinit.headerParts_append, hcondition.headerParts_append, hincrement.headerParts_append,
    headerParts_semicolon, headerParts_end]

/-- Nodes are dealt out to the clauses they belong to, and the node behind them is the body. -/
theorem deal_reduceOption {α : Type} (a b c : Option α) (body : α) :
    Clauses.deal ⟨a.isSome, b.isSome, c.isSome⟩ ([a, b, c].reduceOption ++ [body]) = [a, b, c, some body] := by
  cases a <;> cases b <;> cases c <;> rfl

theorem lowerAll_eq_map : ∀ cs : List Cursor, lowerAll cs = cs.map Cursor.lower
  | [] => by rw [lowerAll, List.map_nil]
  | c :: cs => by rw [lowerAll, List.map_cons, lowerAll_eq_map cs]

end Syntax

/-! ## Loops that can be drawn -/

namespace Flow

variable {desc : String} {b : Statement} {l : Option SourceSpan}

/-- A loop with all its clauses is rejected with what its body is rejected with, wherever the loop stands and
whichever points the body leads to. -/
theorem faultOf_draw_forLoop (i c p : Statement) (t : Targets) (d d' : Draft) (after next : NodeId) :
    faultOf (draw (.mk .forLoop desc [some i, some c, some p, some b] l) t d) =
      faultOf (draw b ⟨after, some next, some after⟩ d') := by
  have hbody (after' next' : NodeId) (d₁ : Draft) : faultOf (draw b ⟨after', some next', some after'⟩ d₁) =
      faultOf (draw b ⟨after, some next, some after⟩ d') := by
    rw [faultOf_draw b rfl, faultOf_draw b rfl]
    rfl
  rw [draw.eq_def]
  refine faultOf_bind_of_silent (fun _ => rfl) fun first _ => ?_
  refine faultOf_bind_of_silent (fun _ => rfl) fun increment _ => ?_
  refine faultOf_bind_of_silent (fun _ => rfl) fun choice _ => ?_
  refine faultOf_bind_of_silent (faultOf_enterBody b _) fun _ d₁ => ?_
  exact (faultOf_bind_silent fun _ _ => rfl).trans (hbody _ _ d₁)

/-- A loop is rejected exactly if one of its clauses is absent or its body is rejected. -/
theorem isSome_faultOf_draw_forLoop (i c p : Option Statement) (t : Targets) (d d' : Draft)
    (after next : NodeId) :
    (faultOf (draw (.mk .forLoop desc [i, c, p, some b] l) t d)).isSome ↔
      none ∈ [i, c, p] ∨ (faultOf (draw b ⟨after, some next, some after⟩ d')).isSome := by
  rcases i with _ | i
  · exact ⟨fun _ => .inl (by simp), fun _ => rfl⟩
  rcases c with _ | c
  · exact ⟨fun _ => .inl (by simp), fun _ => rfl⟩
  rcases p with _ | p
  · exact ⟨fun _ => .inl (by simp), fun _ => rfl⟩
  rw [faultOf_draw_forLoop i c p t d d' after next]
  simp

/-- A function of one statement is rejected exactly if the statement is. -/
theorem exists_outcome_eq_error_iff (s : Statement) (name : Option String) (d : Draft) :
    (∃ e, (Graph.ofStatements [s] name).outcome = .error e) ↔ (faultOf (draw s .ofFunction d)).isSome := by
  rw [faultOf_draw s rfl, Option.isSome_iff_exists]
  simp only [outcome_eq_error_iff]
  rfl

end Flow

namespace Syntax

/-- A clause of a loop header: its words, and the node of the syntax tree that it has if it has any words. -/
structure Clause where
  words : List String
  node : Option Cursor
  isClause : IsClause words
  isSome_node : node.isSome = !words.isEmpty

theorem Clause.node_eq_none_iff (c : Clause) : c.node = none ↔ c.words = [] := by
  rw [← Option.not_isSome_iff_eq_none, c.isSome_node]
  simp

/-- The statement of a loop. -/
theorem lower_of_forLoop {loop : Cursor} (hkind : loop.kind = .forLoop) : loop.lower =
    .mk .forLoop "ForStmt" ((forClauses loop.tokens).deal (loop.children.map Cursor.lower)) loop.location := by
  obtain ⟨kind, spelling, tokens, children, extent, position, isDefinition, definition, comment, parameters⟩ := loop
  obtain rfl : kind = .forLoop := hkind
  rw [Cursor.lower, lowerAll_eq_map]
  rfl

/-- The words of a loop up to the bracket that closes its header tell which clauses are written, whatever brackets and
semicolons the clauses, the body and the text behind them hold. So each clause of the statement is that of the node
that belongs to it, or absent if it has no words, and the node behind the clauses is the body. The loop is rejected,
as a function of its own and wherever else it stands, exactly if a clause has no words or the body is rejected inside
of a loop. -/
theorem lower_forLoop (loop body : Cursor) (init condition increment : Clause) (before rest : List String)
    (hkind : loop.kind = .forLoop) (hbefore : "(" ∉ before)
    (htokens : loop.tokens = before ++ ["("] ++ init.words ++ [";"] ++ condition.words ++ [";"] ++
      increment.words ++ [")"] ++ rest)
    (hchildren : loop.children = [init.node, condition.node, increment.node].reduceOption ++ [body]) :
    let s := loop.lower
    (s.kind = .forLoop ∧ s.child? 0 = init.node.map Cursor.lower ∧ s.child? 1 = condition.node.map Cursor.lower ∧
      s.child? 2 = increment.node.map Cursor.lower ∧ s.child? 3 = some body.lower) ∧
    ∀ (t : Flow.Targets) (after next : Flow.NodeId) (d d' : Flow.Draft) (name : Option String),
      let rejected := (∃ c ∈ [init, condition, increment], c.words = []) ∨
        (faultOf (draw body.lower ⟨after, some next, some after⟩ d')).isSome
      ((faultOf (draw s t d)).isSome ↔ rejected) ∧
        ((∃ e, (Flow.Graph.ofStatements [s] name).outcome = .error e) ↔ rejected) := by
  intro s
  have hs : s = .mk .forLoop "ForStmt" [init.node.map Cursor.lower, condition.node.map Cursor.lower,
      increment.node.map Cursor.lower, some body.lower] loop.location := by
    have hmap : loop.children.map Cursor.lower = [init.node.map Cursor.lower, condition.node.map Cursor.lower,
        increment.node.map Cursor.lower].reduceOption ++ [body.lower] := by
      rw [hchildren, List.map_append, ← List.reduceOption_map]
      rfl
    rw [show s = loop.lower from rfl, lower_of_forLoop hkind, htokens, hmap,
      forClauses_header rest hbefore init.isClause condition.isClause increment.isClause, ← init.isSome_node,
      ← condition.isSome_node, ← increment.isSome_node, ← deal_reduceOption]
    simp only [Option.isSome_map]
  have habsent : none ∈ [init, condition, increment].map (·.node.map Cursor.lower) ↔
      ∃ c ∈ [init, condition, increment], c.words = [] := by
    simp only [List.mem_map, Option.map_eq_none_iff, Clause.node_eq_none_iff]
  have hrejected (t : Flow.Targets) (after next : Flow.NodeId) (d d' : Flow.Draft) :
      (faultOf (draw s t d)).isSome ↔ (∃ c ∈ [init, condition, increment], c.words = []) ∨
        (faultOf (draw body.lower ⟨after, some next, some after⟩ d')).isSome := by
    rw [hs, Flow.isSome_faultOf_draw_forLoop _ _ _ t d d' after next, ← habsent]
    rfl
  refine ⟨?_, fun t after next d d' name => ⟨hrejected t after next d d', ?_⟩⟩
  · rw [hs]
    exact ⟨rfl, rfl, rfl, rfl, rfl⟩
  · rw [Flow.exists_outcome_eq_error_iff s name d]
    exact hrejected _ after next d d'

/-- The loop `for (; ({ a; b[0]; }); ) { continue; }` in front of `f(;)`. Only its condition is written, with semicolons
of its own. -/
theorem lower_forLoop_bare :
    let node (kind : CursorKind) (tokens : List String) (children : List Cursor) : Cursor :=
      .mk kind "" tokens children none {} false none none []
    let words : List String := ["(", "\x7b", "a", ";", "b", "[", "0", "]", ";", "\x7d", ")"]
    let value := node (.other "STMT_EXPR") words []
    let body := node .compound [] [node .continueLoop ["continue"] []]
    let loop := node .forLoop (["for", "(", ";"] ++ words ++
      [";", ")", "\x7b", "continue", ";", "\x7d", "f", "(", ";", ")"]) [value, body]
    IsClause words ∧ loop.lower.child? 0 = none ∧ loop.lower.child? 1 = some value.lower ∧
      loop.lower.child? 2 = none ∧ loop.lower.child? 3 = some body.lower ∧
      ∃ e, (Flow.Graph.ofStatements [loop.lower] none).outcome = .error e := by
  intro node words value body loop
  have hwords : IsClause words := by decide
  have hempty : IsClause [] := by decide
  obtain ⟨⟨_, hinit, hcondition, hincrement, hbody⟩, hrejected⟩ :=
    lower_forLoop loop body ⟨[], none, hempty, rfl⟩ ⟨words, some value, hwords, rfl⟩ ⟨[], none, hempty, rfl⟩
      ["for"] ["\x7b", "continue", ";", "\x7d", "f", "(", ";", ")"] rfl (by decide) rfl rfl
  have hbare := (hrejected .ofFunction 0 0 ⟨Flow.Graph.empty none, #[]⟩ ⟨Flow.Graph.empty none, #[]⟩ none).2
  exact ⟨hwords, hinit, hcondition, hincrement, hbody, hbare.2 (.inl ⟨_, List.mem_cons_self, rfl⟩)⟩

end Syntax

end LoanCheck

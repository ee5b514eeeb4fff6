import LoanCheck.Proofs.Flow.Drawing
import Mathlib.Tactic.SplitIfs

/-!
# Which functions can be drawn

Drawing comes upon statements in a fixed order (`encountersAll`) : a list from its last statement to its first, every
statement before what is inside it. Of what is inside a conditional or a loop only the body counts; conditions and
clauses are never looked into. A statement is `WellFormed` where it stands if flow graphs model it and it has the
children its kind calls for, and `Encounter.fault?` is what it is rejected with if not.

Drawing ends with the first fault in that order, if there is one (`faultOf_draw`, by induction over the statement).
So a function can be drawn exactly if every statement that drawing comes upon is well formed, and is rejected with the
fault of the first that is not (`outcome_ofStatements_iff`).
-/

namespace LoanCheck

/-- What the children that a statement must have are called, in order. -/
def Statement.roles (s : Statement) : List String :=
  match s.kind with
  | .cond | .whileLoop => ["condition", "body"]
  | .forLoop => ["init clause", "condition", "increment clause", "body"]
  | .compound => (List.range s.children.length).map entryRole
  | .ret | .breakOut | .continueLoop | .unsupported | .other => []

theorem Statement.child?_natCast (s : Statement) (i : Nat) : s.child? i = (s.children[i]?).join := by
  rw [child?, if_neg (by omega), Int.toNat_natCast]

/-- A conditional with an else branch. -/
def Statement.HasElse (s : Statement) : Prop :=
  s.kind = .cond ∧ (s.child? 2).isSome

instance (s : Statement) : Decidable s.HasElse :=
  inferInstanceAs (Decidable (_ ∧ _))

namespace Flow

/-- A statement that drawing comes upon. -/
structure Encounter where
  stmt : Statement
  /-- There is a loop around the statement. -/
  inLoop : Bool

/-! ## The order of drawing -/

mutual

/-- A statement, and then what is inside it. -/
def encounters (inLoop : Bool) : Statement → List Encounter
  | .mk kind description children location =>
    ⟨.mk kind description children location, inLoop⟩ ::
      match kind, children with
      | .cond, _ :: some body :: _ => encounters inLoop body
      | .whileLoop, _ :: some body :: _ => encounters true body
      | .forLoop, _ :: _ :: _ :: some body :: _ => encounters true body
      | .compound, entries => encountersAll inLoop entries
      | _, _ => []
termination_by structural s => s

/-- The entries of a list, from the last to the first. -/
def encountersAll (inLoop : Bool) : List (Option Statement) → List Encounter
  | [] => []
  | none :: rest => encountersAll inLoop rest
  | some s :: rest => encountersAll inLoop rest ++ encounters inLoop s
termination_by structural l => l

end

theorem encountersAll_append (inLoop : Bool) : ∀ cs cs' : List (Option Statement),
    encountersAll inLoop (cs ++ cs') = encountersAll inLoop cs' ++ encountersAll inLoop cs
  | [], cs' => by simp [encountersAll]
  | none :: cs, cs' => by
    rw [List.cons_append, encountersAll, encountersAll, encountersAll_append inLoop cs cs']
  | some s :: cs, cs' => by
    rw [List.cons_append, encountersAll, encountersAll, encountersAll_append inLoop cs cs', List.append_assoc]

/-! ## Faults of single statements -/

namespace Encounter

/-- Flow graphs model the statement, where it stands, and it has the children that it must have. -/
structure WellFormed (v : Encounter) : Prop where
  supported : v.stmt.kind ≠ .unsupported
  noElse : ¬v.stmt.HasElse
  inLoop : v.stmt.kind = .continueLoop → v.inLoop = true
  children : ∀ i < v.stmt.roles.length, (v.stmt.child? i).isSome

/-- The first child that the statement must have and has not. -/
def absentChild? (v : Encounter) : Option StatementFault :=
  (v.stmt.roles.zipIdx.find? fun r => (v.stmt.child? r.2).isNone).map fun r => .missing v.stmt r.1

/-- What a statement is rejected with. An else branch counts before absent children. -/
def fault? (v : Encounter) : Option StatementFault :=
  if v.stmt.kind = .unsupported then some (.construct v.stmt)
  else if v.stmt.HasElse then some (.elseBranch v.stmt)
  else if v.stmt.kind = .continueLoop ∧ v.inLoop = false then some (.strayContinue v.stmt)
  else v.absentChild?

variable {v : Encounter}

theorem absentChild?_eq_none_iff :
    v.absentChild? = none ↔ ∀ i < v.stmt.roles.length, (v.stmt.child? i).isSome := by
  simp only [absentChild?, Option.map_eq_none_iff, List.find?_eq_none, Option.isNone_iff_eq_none,
    Option.isSome_iff_ne_none]
  constructor
  · intro h i hi
    exact h (v.stmt.roles[i], i) (List.mk_mem_zipIdx_iff_getElem?.2 (List.getElem?_eq_getElem hi))
  · rintro h ⟨role, i⟩ hmem
    exact h i (List.getElem?_eq_some_iff.1 (List.mk_mem_zipIdx_iff_getElem?.1 hmem)).1

theorem fault?_eq_none_iff : v.fault? = none ↔ v.WellFormed := by
  unfold fault?
  split_ifs with hkind helse hloop
  · exact ⟨nofun, fun h => absurd hkind h.supported⟩
  · exact ⟨nofun, fun h => absurd helse h.noElse⟩
  · exact ⟨nofun, fun h => by simp [h.inLoop hloop.1] at hloop⟩
  · rw [absentChild?_eq_none_iff]
    exact ⟨fun h => ⟨hkind, helse, fun hk => by simpa [hk] using hloop, h⟩, fun h => h.children⟩

/-- A fault carries the statement, and says whether the statement is malformed or left out on purpose. -/
theorem of_fault?_eq_some {e : StatementFault} (h : v.fault? = some e) : e.stmt = v.stmt ∧
    (e.isUnsupported = true ↔ v.stmt.kind = .unsupported ∨ v.stmt.HasElse) ∧ ∀ s, e ≠ .strayBreak s := by
  unfold fault? at h
  split_ifs at h with hkind helse hloop
  · cases h
    exact ⟨rfl, by simp [StatementFault.isUnsupported, hkind], nofun⟩
  · cases h
    exact ⟨rfl, by simp [StatementFault.isUnsupported, helse], nofun⟩
  · cases h
    exact ⟨rfl, by simp [StatementFault.isUnsupported, hkind, helse], nofun⟩
  · obtain ⟨r, -, rfl⟩ := Option.map_eq_some_iff.1 h
    exact ⟨rfl, by simp [StatementFault.isUnsupported, hkind, helse], nofun⟩

section Compound

variable {d : String} {cs : List (Option Statement)} {l : Option SourceSpan} {inLoop : Bool}

theorem fault?_of_firstAbsent? {i : Nat} (h : firstAbsent? cs = some i) :
    fault? ⟨.mk .compound d cs l, inLoop⟩ =
      some (.missing (.mk .compound d cs l) (Statement.entryRole i)) := by
  obtain ⟨hi, habsent, hbefore⟩ := List.findIdx?_eq_some_iff_getElem.1 h
  have hfind : (Statement.roles (.mk .compound d cs l)).zipIdx.find?
      (fun r => (Statement.child? (.mk .compound d cs l) r.2).isNone) = some (Statement.entryRole i, i) := by
    rw [List.find?_eq_some_iff_getElem]
    refine ⟨?_, i, ?_, ?_, fun j hj => ?_⟩
    · simpa [Statement.child?_natCast, Statement.children, hi] using habsent
    · simpa [Statement.roles, Statement.kind, Statement.children] using hi
    · simp [Statement.roles, Statement.kind]
    · simpa [Statement.child?_natCast, Statement.children, Nat.lt_trans hj hi,
        Option.isSome_iff_ne_none] using hbefore j hj
  exact congrArg (Option.map fun r => StatementFault.missing (.mk .compound d cs l) r.1) hfind

theorem fault?_of_firstAbsent?_eq_none (h : firstAbsent? cs = none) :
    fault? ⟨.mk .compound d cs l, inLoop⟩ = none := by
  refine fault?_eq_none_iff.2 ⟨nofun, nofun, nofun, fun i hi => ?_⟩
  have hi : i < cs.length := by simpa [Statement.roles, Statement.kind, Statement.children] using hi
  simpa [Statement.child?_natCast, Statement.children, hi] using
    isSome_of_firstAbsent? h _ (List.getElem_mem hi)

end Compound

end Encounter

/-! ## Drawing ends with the first fault -/

/-- The fault that drawing stopped at. -/
def faultOf {α : Type} : EStateM.Result StatementFault Draft α → Option StatementFault
  | .ok _ _ => none
  | .error e _ => some e

open Drawing

theorem faultOf_bind {α β : Type} {x : Drawing α} {f : α → Drawing β} {d : Draft}
    {fault : Option StatementFault} (h : ∀ a d₁, faultOf (f a d₁) = fault) :
    faultOf ((x >>= f) d) = (faultOf (x d)).or fault := by
  simp only [bind, EStateM.bind]
  cases x d with
  | error e d₁ => rfl
  | ok a d₁ => exact h a d₁

theorem faultOf_bind_of_silent {α β : Type} {x : Drawing α} {f : α → Drawing β} {d : Draft}
    {fault : Option StatementFault} (hx : ∀ d, faultOf (x d) = none)
    (h : ∀ a d₁, faultOf (f a d₁) = fault) : faultOf ((x >>= f) d) = fault := by
  rw [faultOf_bind h, hx, Option.none_or]

theorem faultOf_bind_silent {α β : Type} {x : Drawing α} {f : α → Drawing β} {d : Draft}
    (h : ∀ a d₁, faultOf (f a d₁) = none) : faultOf ((x >>= f) d) = faultOf (x d) := by
  rw [faultOf_bind h, Option.or_none]

theorem faultOf_enterBody (body : Statement) (next : NodeId) (d : Draft) :
    faultOf (enterBody body next d) = none := by
  unfold enterBody
  split <;> rfl

mutual

theorem faultOf_draw : ∀ (s : Statement) {t : Targets}, t.breakTo.isSome → ∀ d,
    faultOf (draw s t d) = (encounters t.continueTo.isSome s).findSome? Encounter.fault?
  | .mk kind desc cs loc, t, ht, d => by
    rw [draw.eq_def, encounters.eq_def]
    cases kind with
    | ret => rfl
    | breakOut =>
      obtain ⟨target, ht⟩ := Option.isSome_iff_exists.1 ht
      simp only [ht]
      rfl
    | continueLoop =>
      cases ht : t.continueTo <;> simp only [ht] <;> rfl
    | unsupported => rfl
    | other => rfl
    | cond =>
      rcases cs with _ | ⟨_ | c, _ | ⟨_ | b, _ | ⟨_ | e, rest⟩⟩⟩
      all_goals try rfl
      -- a condition and a body without an else branch are left
      all_goals
        refine faultOf_bind_of_silent (fun _ => rfl) fun choice _ => ?_
        refine faultOf_bind_of_silent (faultOf_enterBody b _) fun _ d₁ => ?_
        exact (faultOf_bind_silent fun _ _ => rfl).trans (faultOf_draw b ht d₁)
    | whileLoop =>
      rcases cs with _ | ⟨_ | c, _ | ⟨_ | b, rest⟩⟩
      all_goals try rfl
      refine faultOf_bind_of_silent (fun _ => rfl) fun choice _ => ?_
      refine faultOf_bind_of_silent (faultOf_enterBody b _) fun _ d₁ => ?_
      exact (faultOf_bind_silent fun _ _ => rfl).trans (faultOf_draw b rfl d₁)
    | forLoop =>
      rcases cs with _ | ⟨_ | i, _ | ⟨_ | c, _ | ⟨_ | p, _ | ⟨_ | b, rest⟩⟩⟩⟩
      all_goals try rfl
      refine faultOf_bind_of_silent (fun _ => rfl) fun first _ => ?_
      refine faultOf_bind_of_silent (fun _ => rfl) fun after _ => ?_
      refine faultOf_bind_of_silent (fun _ => rfl) fun choice _ => ?_
      refine faultOf_bind_of_silent (faultOf_enterBody b _) fun _ d₁ => ?_
      exact (faultOf_bind_silent fun _ _ => rfl).trans (faultOf_draw b rfl d₁)
    | compound =>
      cases habsent : firstAbsent? cs with
      | some i =>
        simp only [habsent, List.findSome?_cons, Encounter.fault?_of_firstAbsent? habsent]
        rfl
      | none =>
        simp only [habsent, List.findSome?_cons, Encounter.fault?_of_firstAbsent?_eq_none habsent]
        exact faultOf_bind_of_silent (fun _ => rfl) fun _ d₁ => faultOf_drawAll cs ht d₁

theorem faultOf_drawAll : ∀ (cs : List (Option Statement)) {t : Targets}, t.breakTo.isSome → ∀ d,
    faultOf (drawAll cs t d) = (encountersAll t.continueTo.isSome cs).findSome? Encounter.fault?
  | [], t, _, d => rfl
  | none :: cs, t, ht, d => by
    rw [drawAll, encountersAll]
    exact faultOf_drawAll cs ht d
  | some s :: cs, t, ht, d => by
    rw [drawAll, encountersAll, List.findSome?_append, ← faultOf_drawAll cs ht d]
    exact faultOf_bind fun next d₁ => faultOf_draw s (t := { t with next }) ht d₁

end

theorem faultOf_drawFunction (ss : List Statement) (d : Draft) :
    faultOf (drawFunction ss d) = (encountersAll false (ss.map some)).findSome? Encounter.fault? := by
  refine (faultOf_bind_silent fun _ _ => rfl).trans ?_
  exact faultOf_bind_of_silent (fun _ => rfl) fun _ d₁ => faultOf_drawAll (ss.map some) rfl d₁

section Outcome

variable {ss : List Statement} {name : Option String}

theorem outcome_eq_error_iff {e : StatementFault} : (Graph.ofStatements ss name).outcome = .error e ↔
    (encountersAll false (ss.map some)).findSome? Encounter.fault? = some e := by
  rw [← faultOf_drawFunction ss ⟨Graph.empty name, #[]⟩, Graph.ofStatements]
  cases drawFunction ss ⟨Graph.empty name, #[]⟩ <;> simp [faultOf]

theorem exists_outcome_eq_ok_iff : (∃ g, (Graph.ofStatements ss name).outcome = .ok g) ↔
    (encountersAll false (ss.map some)).findSome? Encounter.fault? = none := by
  rw [← faultOf_drawFunction ss ⟨Graph.empty name, #[]⟩, Graph.ofStatements]
  cases drawFunction ss ⟨Graph.empty name, #[]⟩ <;> simp [faultOf]

end Outcome

/-- A function can be drawn exactly if every statement that drawing comes upon is well formed. Otherwise it is rejected
with the fault of the first statement that is not, which the fault carries; it counts as unsupported if the statement
is of an unsupported kind or has an else branch, and as malformed if not. No `break` is ever without a target. -/
theorem outcome_ofStatements_iff (ss : List Statement) (name : Option String) :
    let order := encountersAll false (ss.map some)
    ((∃ g, (Graph.ofStatements ss name).outcome = .ok g) ↔ ∀ v ∈ order, v.WellFormed) ∧
      (∀ before v after, order = before ++ v :: after → (∀ w ∈ before, w.WellFormed) → ¬v.WellFormed →
        ∃ e, (Graph.ofStatements ss name).outcome = .error e ∧ v.fault? = some e ∧ e.stmt = v.stmt ∧
          (e.isUnsupported = true ↔ v.stmt.kind = .unsupported ∨ v.stmt.HasElse)) ∧
      ∀ s, (Graph.ofStatements ss name).outcome ≠ .error (.strayBreak s) := by
  intro order
  refine ⟨?_, fun before v after horder hbefore hv => ?_, fun s h => ?_⟩
  · simp only [exists_outcome_eq_ok_iff, List.findSome?_eq_none_iff, Encounter.fault?_eq_none_iff, order]
  · obtain ⟨e, he⟩ := Option.ne_none_iff_exists'.1 (mt Encounter.fault?_eq_none_iff.1 hv)
    have hfirst : order.findSome? Encounter.fault? = some e :=
      List.findSome?_eq_some_iff.2
        ⟨before, v, after, horder, he, fun w hw => Encounter.fault?_eq_none_iff.2 (hbefore w hw)⟩
    obtain ⟨hstmt, hclass, -⟩ := Encounter.of_fault?_eq_some he
    exact ⟨e, outcome_eq_error_iff.2 hfirst, he, hstmt, hclass⟩
  · obtain ⟨v, -, hv⟩ := List.exists_of_findSome?_eq_some (outcome_eq_error_iff.1 h)
    exact (Encounter.of_fault?_eq_some hv).2.2 s rfl

/-- The absent entry of the loop's body counts before the statement beside it, and the loop before the conditional in
front of it. What stands in the place of the loop's condition does not count at all. -/
example :
    let goto : Statement := .mk .unsupported "GotoStmt" [] none
    let block : Statement := .mk .compound "" [some goto, none] none
    let loop : Statement := .mk .whileLoop "" [some goto, some block] none
    let choice : Statement := .mk .cond "" [some goto, some goto, some goto] none
    (Graph.ofStatements [choice, loop] none).outcome = .error (.missing block (Statement.entryRole 1)) :=
  rfl

end Flow

end LoanCheck

import LoanCheck.Facts.FactSet
import LoanCheck.Facts.Fault

/-!
# Reading facts

A facts text is a sequence of forms `(facts name? relation*)`, each about one function, or a sequence of
bare relations, which is one unnamed form. Regions and loans are numbered per form in order of first
appearance. Relation words may be written with underscores.
-/

namespace LoanCheck.Facts

open Solver Sexp

/-! ## Atoms -/

/-- The word at the head of a form, with hyphens for underscores. -/
def headWord? : Datum → Option String
  | .list (.symbol name :: _) => some (name.map fun c => if c = '_' then '-' else c)
  | _ => none

/-- Spelling of a region, a loan or a function. -/
def nameOf (source : String) : Datum → Except FactsFault String
  | .quoted (.symbol name) => .ok ("'" ++ name)
  | .symbol name => .ok name
  | .string text => .ok text
  | .int i => .ok (toString i)
  | d => .error (.badName source d)

def pointOf (source : String) : Datum → Except FactsFault Point
  | .int i => if 0 ≤ i then .ok i else .error (.badPoint source (.int i))
  | d => .error (.badPoint source d)

/-! ## Rows -/

/-- The number of a name, and the names with it added if it is new. -/
def intern (names : List String) (name : String) : Int × List String :=
  match names.findIdx? (· = name) with
  | some i => (i, names)
  | none => (names.length, names ++ [name])

namespace FactSet

def internRegion (fs : FactSet) (name : String) : Region × FactSet :=
  let (r, names) := intern fs.regionNames name
  (r, { fs with regionNames := names })

def internLoan (fs : FactSet) (name : String) : Loan × FactSet :=
  let (l, names) := intern fs.loanNames name
  (l, { fs with loanNames := names })

/-- The facts with one more row. Columns are read from left to right. -/
def addRow (fs : FactSet) (source : String) (relation : RelationName) (row : List Datum) :
    Except FactsFault FactSet := do
  match relation, row with
  | .step, [a, b] =>
    let p ← pointOf source a
    let q ← pointOf source b
    return { fs with base.steps := fs.base.steps.insert ⟨p, q⟩ }
  | .inclusion, [a, b, c] =>
    let (r, fs) := fs.internRegion (← nameOf source a)
    let (r', fs) := fs.internRegion (← nameOf source b)
    let p ← pointOf source c
    return { fs with base.inclusions := fs.base.inclusions.insert ⟨r, r', p⟩ }
  | .borrow, [a, b, c] =>
    let (r, fs) := fs.internRegion (← nameOf source a)
    let (l, fs) := fs.internLoan (← nameOf source b)
    let p ← pointOf source c
    return { fs with base.borrows := fs.base.borrows.insert ⟨r, l, p⟩ }
  | .liveness, [a, b] =>
    let (r, fs) := fs.internRegion (← nameOf source a)
    let p ← pointOf source b
    return { fs with base.live := fs.base.live.insert ⟨r, p⟩ }
  | .kill, [a, b] =>
    let (l, fs) := fs.internLoan (← nameOf source a)
    let p ← pointOf source b
    return { fs with base.kills := fs.base.kills.insert ⟨l, p⟩ }
  | .invalidation, [a, b] =>
    let p ← pointOf source a
    let (l, fs) := fs.internLoan (← nameOf source b)
    return { fs with base.invalidations := fs.base.invalidations.insert ⟨p, l⟩ }
  | relation, row => .error (.wrongArity source relation row.length)

/-- The facts with the row that a relation form writes down. -/
def addForm (source : String) (fs : FactSet) (form : Datum) : Except FactsFault FactSet :=
  match (headWord? form).bind RelationName.ofWord?, form with
  | some relation, .list (_ :: row) => fs.addRow source relation row
  | _, form => .error (.unknownRelation source form)

end FactSet

/-! ## Texts -/

/-- The facts of relation forms, about a function. -/
def readRelations (source : String) (function : Option String) (forms : List Datum) :
    Except FactsFault FactSet :=
  forms.foldlM (FactSet.addForm source) { function }

/-- The facts of one `(facts …)` form. A first entry that is no list is the function's name. -/
def readForm (source : String) : Datum → Except FactsFault FactSet
  | .list (_ :: .list items :: rest) => readRelations source none (.list items :: rest)
  | .list (_ :: name :: rest) => do readRelations source (some (← nameOf source name)) rest
  | _ => readRelations source none []

/-- Where the form at a position is, in messages. -/
def formSource (source : String) (i : Nat) : String := s!"{source}: form #{i}"

/-- Reads every form of a text. -/
def parse (text : String) (source : String) : Except FactsFault (List FactSet) := do
  let forms ← (readAll text).mapError (.malformed source)
  let isNamed (form : Datum) : Bool := headWord? form == some "facts"
  if forms.isEmpty then .ok []
  else if forms.all isNamed then
    forms.zipIdx.mapM fun (form, i) => readForm (formSource source i) form
  else if forms.any isNamed then .error (.mixed source)
  else return [← readRelations source none forms]

/-- Fact sets under the functions they are about, in order. No function may have two. -/
def byFunction (sets : List FactSet) : Except FactsFault (List (Option String × FactSet)) :=
  sets.foldlM (fun index fs =>
    if index.any (·.1 == fs.function) then .error (.duplicate fs.function)
    else .ok (index ++ [(fs.function, fs)])) []

/-- Checks that the graph has all points that the facts mention. -/
def FactSet.validate (fs : FactSet) (graph : Flow.Graph) : Except FactsFault Unit :=
  let unknown := fs.unknownPoints graph
  if unknown.isEmpty then .ok ()
  else .error (.unknownPoints fs.function unknown graph.nodes.size)

end LoanCheck.Facts

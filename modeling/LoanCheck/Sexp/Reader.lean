import LoanCheck.Sexp.Datum
import LoanCheck.Sexp.Token

/-!
# Reading S-expressions

The reader keeps a stack of what is open: brackets, and apostrophes that wait for the datum they quote.
An apostrophe stays open up to the end of the list it stands in; then the first datum after it is quoted
and the others follow unchanged. The first fault in reading order is reported.
-/

namespace LoanCheck.Sexp

/-- Why a text is no S-expression. -/
inductive ReadFault where
  | unclosedString
  /-- A list ended in another bracket, or the text ended inside of it. -/
  | wrongCloser (expected : Bracket) (got : Option Bracket)
  /-- Nothing follows an apostrophe. -/
  | emptyQuote (position : Nat)
  /-- A closing bracket that closes nothing, with the text from there on. -/
  | strayCloser (text : List Char)
  /-- The text holds no datum, or more than one. -/
  | notSingle
deriving DecidableEq, Repr

def ReadFault.message : ReadFault → String
  | unclosedString => "'NoneType' object has no attribute 'start'"
  | wrongCloser expected got =>
    let shown := match got with
      | some b => Text.quoted (toString b.closer)
      | none => "None"
    s!"Not enough closing brackets. Expected '{expected.closer}' to be the last letter in the sexp. Got: {shown}"
  | emptyQuote position => s!"No s-exp is found after an apostrophe at position {position}"
  | strayCloser text =>
    "Too many closing brackets. Expected no character left in the sexp. Got: " ++
      Text.quoted (String.ofList text)
  | notSingle => ""

/-- What a frame of the stack was opened by. -/
inductive Opener where
  | bracket (b : Bracket)
  | apostrophe (position : Nat)
deriving DecidableEq, Repr

/-- Something open, with the data read inside of it, last one first. -/
structure Frame where
  opener : Opener
  items : List Datum

/-- A reading in progress: the data read at the top, last one first, and what is open, innermost first. -/
structure Reading where
  top : List Datum
  frames : List Frame

namespace Reading

def empty : Reading := ⟨[], []⟩

/-- Adds a datum to the innermost open frame. -/
def push (r : Reading) (d : Datum) : Reading :=
  match r.frames with
  | [] => { r with top := d :: r.top }
  | f :: fs => { r with frames := { f with items := d :: f.items } :: fs }

def openFrame (r : Reading) (o : Opener) : Reading :=
  { r with frames := ⟨o, []⟩ :: r.frames }

end Reading

/-- Data after an apostrophe, last one first: the first of them is quoted. -/
def quoteFirst : List Datum → List Datum
  | [] => []
  | [d] => [.quoted d]
  | d :: ds => d :: quoteFirst ds

/-- Ends the apostrophes that are open inside of the innermost bracket. `inner` holds data that belong to
the frame in front of `frames`, last one first. -/
def endQuotes (top : List Datum) : List Frame → List Datum → Except ReadFault Reading
  | [], inner => .ok ⟨inner ++ top, []⟩
  | ⟨.bracket b, items⟩ :: frames, inner => .ok ⟨top, ⟨.bracket b, inner ++ items⟩ :: frames⟩
  | ⟨.apostrophe position, items⟩ :: frames, inner =>
    if (inner ++ items).isEmpty then .error (.emptyQuote position)
    else endQuotes top frames (quoteFirst (inner ++ items))

/-- The reading after all apostrophes inside of the innermost bracket have ended. -/
def Reading.endQuotes (r : Reading) : Except ReadFault Reading :=
  Sexp.endQuotes r.top r.frames []

def Bracket.datum (b : Bracket) (items : List Datum) : Datum :=
  match b with
  | .round => .list items
  | .square => .group items

/-- The reading after one more token. -/
def Reading.step (r : Reading) : Token → Except ReadFault Reading
  | .opening b => .ok (r.openFrame (.bracket b))
  | .apostrophe position => .ok (r.openFrame (.apostrophe position))
  | .word text => .ok (r.push (.ofWord (String.ofList text)))
  | .string text => .ok (r.push (.string (String.ofList text)))
  | .unclosedString => .error .unclosedString
  | .closing b text => do
    let r ← r.endQuotes
    match r.frames with
    | ⟨.bracket expected, items⟩ :: frames =>
      if b = expected then .ok (Reading.push ⟨r.top, frames⟩ (b.datum items.reverse))
      else .error (.wrongCloser expected (some b))
    | _ => .error (.strayCloser text)

/-- The single datum read, once the text has ended. -/
def Reading.finish (r : Reading) : Except ReadFault Datum := do
  let r ← r.endQuotes
  match r.frames, r.top with
  | ⟨.bracket expected, _⟩ :: _, _ => .error (.wrongCloser expected none)
  | _, [d] => .ok d
  | _, _ => .error .notSingle

/-- Reads a text that holds a single datum. -/
def read (text : List Char) : Except ReadFault Datum := do
  let r ← (scan text).foldlM Reading.step Reading.empty
  r.finish

/-- Reads a text that holds any number of data. -/
def readAll (text : String) : Except ReadFault (List Datum) := do
  match ← read ('(' :: text.toList ++ ['\n', ')']) with
  | .list items => .ok items
  | _ => .error .notSingle

end LoanCheck.Sexp

import LoanCheck.Toml.Document
import LoanCheck.Toml.Scalar

/-!
# Reading TOML

A document is a sequence of statements, one a line: table headers, headers of array items, and keys with
their values. Values nest, and every nested value and every item takes at least one character, so the
number of characters bounds the depth and the length of all of them; the readers below count down from it.
-/

namespace LoanCheck.Toml

def skipBlanks (cs : List Char) : List Char := cs.dropWhile isInlineBlank

/-- The text after a comment, if one stands at the front. The line break stays. -/
def skipComment : List Char → Except TomlFault (List Char)
  | '#' :: rest =>
    if (rest.takeWhile (· != '\n')).any isIllegal then fail .character
    else .ok (rest.dropWhile (· != '\n'))
  | cs => .ok cs

/-- The text after blanks, line breaks and comments. -/
def skipBetween (inComment : Bool) : List Char → Except TomlFault (List Char)
  | [] => .ok []
  | c :: cs =>
    if inComment then
      if c = '\n' then skipBetween false cs
      else if isIllegal c then fail .character
      else skipBetween true cs
    else if isInlineBlank c || c == '\n' then skipBetween false cs
    else if c = '#' then skipBetween true cs
    else .ok (c :: cs)

/-! ## Keys -/

def isBareKeyChar (c : Char) : Bool := c.isAlphanum || c == '-' || c == '_'

def takeKeyPart : List Char → Except TomlFault (String × List Char)
  | '\'' :: rest => literalString [] rest
  | '"' :: rest => basicString false .text [] rest
  | cs =>
    let part := cs.takeWhile isBareKeyChar
    if part.isEmpty then fail .key else .ok (String.ofList part, cs.dropWhile isBareKeyChar)

/-- A dotted key, with the blanks after it skipped. -/
def takeKey : Nat → List Char → Except TomlFault (Key × List Char)
  | 0, _ => fail .key
  | bound + 1, cs => do
    let (part, rest) ← takeKeyPart cs
    match skipBlanks rest with
    | '.' :: rest => do
      let (more, rest) ← takeKey bound (skipBlanks rest)
      .ok (part :: more, rest)
    | rest => .ok ([part], rest)

/-! ## Values -/

mutual

def takeValue : Nat → List Char → Except TomlFault (Value × List Char)
  | 0, _ => fail .value
  | bound + 1, cs =>
    match takeString? cs with
    | some r => r.map fun (s, rest) => (.string s, rest)
    | none =>
      match cs with
      | 't' :: 'r' :: 'u' :: 'e' :: rest => .ok (.bool true, rest)
      | 'f' :: 'a' :: 'l' :: 's' :: 'e' :: rest => .ok (.bool false, rest)
      | '[' :: rest => do
        let rest ← skipBetween false rest
        takeItems bound [] rest
      | '\x7b' :: rest =>
        match skipBlanks rest with
        | '\x7d' :: rest => .ok (.table [], rest)
        | rest => takeMembers bound [] [] rest
      | cs => takeScalar cs
termination_by structural n => n

/-- The items of an array up to its end; `acc` holds the items so far, last one first. -/
def takeItems : Nat → List Value → List Char → Except TomlFault (Value × List Char)
  | _, acc, ']' :: rest => .ok (.array acc.reverse, rest)
  | 0, _, _ => fail .array
  | bound + 1, acc, cs => do
    let (v, rest) ← takeValue bound cs
    match ← skipBetween false rest with
    | ']' :: rest => .ok (.array (v :: acc).reverse, rest)
    | ',' :: rest =>
      let rest ← skipBetween false rest
      takeItems bound (v :: acc) rest
    | _ => fail .array
termination_by structural n => n

/-- The members of an inline table up to its end. -/
def takeMembers : Nat → Table → Marks → List Char → Except TomlFault (Value × List Char)
  | 0, _, _, _ => fail .inlineTable
  | bound + 1, t, marks, cs => do
    let (key, rest) ← takeKey bound cs
    match rest with
    | '=' :: rest =>
      let (v, rest) ← takeValue bound (skipBlanks rest)
      let t ← assignInline t marks key v
      match skipBlanks rest with
      | '\x7d' :: rest => .ok (.table t, rest)
      | ',' :: rest =>
        let marks := if Document.isCompound v then .frozen key :: marks else marks
        takeMembers bound t marks (skipBlanks rest)
      | _ => fail .inlineTable
    | _ => fail .equals
termination_by structural n => n

end

/-! ## Statements -/

/-- One statement, at a character that is neither a blank nor a line break. -/
def takeStatement (bound : Nat) (d : Document) (cs : List Char) : Except TomlFault (Document × List Char) :=
  match cs with
  | '[' :: '[' :: rest => do
    let (key, rest) ← takeKey bound (skipBlanks rest)
    let d ← d.openItem key
    match rest with
    | ']' :: ']' :: rest => .ok (d, skipBlanks rest)
    | _ => fail .header
  | '[' :: rest => do
    let (key, rest) ← takeKey bound (skipBlanks rest)
    let d ← d.openTable key
    match rest with
    | ']' :: rest => .ok (d, skipBlanks rest)
    | _ => fail .header
  | '#' :: _ => .ok (d, cs)
  | c :: _ =>
    if isBareKeyChar c || c = '"' || c = '\'' then do
      let (key, rest) ← takeKey bound cs
      match rest with
      | '=' :: rest =>
        let (v, rest) ← takeValue bound (skipBlanks rest)
        let d ← d.assign key v
        .ok (d, skipBlanks rest)
      | _ => fail .equals
    else fail .statement
  | [] => fail .statement

/-- The statements of a text. -/
def takeStatements : Nat → Document → List Char → Except TomlFault Document
  | bound, d, cs =>
    match bound, skipBlanks cs with
    | _, [] => .ok d
    | 0, _ => fail .statement
    | bound + 1, '\n' :: rest => takeStatements bound d rest
    | bound + 1, cs => do
      let (d, rest) ← takeStatement (bound + 1) d cs
      match ← skipComment rest with
      | [] => .ok d
      | '\n' :: rest => takeStatements bound d rest
      | _ => fail .lineEnd

/-- A carriage return before a line feed does not count. -/
def joinBreaks : List Char → List Char
  | '\r' :: '\n' :: rest => '\n' :: joinBreaks rest
  | c :: rest => c :: joinBreaks rest
  | [] => []

/-- Reads a document. -/
def parse (text : List Char) : Except TomlFault Table := do
  let cs := joinBreaks text
  let d ← takeStatements (cs.length + 1) {} cs
  .ok d.root

end LoanCheck.Toml

import LoanCheck.Toml.Fault
import LoanCheck.Toml.Value

/-!
# TOML scalars

Strings, numbers, dates and times at the front of a text. Each function gives the value and what follows.
-/

namespace LoanCheck.Toml

def fail {α : Type} (reason : Reason) : Except TomlFault α := .error (.grammar reason)

def isInlineBlank (c : Char) : Bool := c == ' ' || c == '\t'

def isControl (c : Char) : Bool := c.toNat < 0x20 || c.toNat == 0x7f

/-- May not stand in a comment or in a string of one line. -/
def isIllegal (c : Char) : Bool := isControl c && c != '\t'

/-- May not stand in a string of several lines. -/
def isIllegalInLines (c : Char) : Bool := isIllegal c && c != '\n'

/-! ## Strings -/

def hexValue? (c : Char) : Option Nat :=
  if '0' ≤ c && c ≤ '9' then some (c.toNat - '0'.toNat)
  else if 'a' ≤ c && c ≤ 'f' then some (c.toNat - 'a'.toNat + 10)
  else if 'A' ≤ c && c ≤ 'F' then some (c.toNat - 'A'.toNat + 10)
  else none

/-- The character with the given hexadecimal digits, unless they name none. -/
def charOfHex? (digits : List Char) : Option Char := do
  let values ← digits.mapM hexValue?
  let n := values.foldl (fun n d => 16 * n + d) 0
  if n < 0xd800 || (0xdfff < n && n < 0x110000) then some (Char.ofNat n) else none

/-- The character that a one-letter escape stands for. -/
def escaped? : Char → Option Char
  | 'b' => some '\x08'
  | 't' => some '\t'
  | 'n' => some '\n'
  | 'f' => some '\x0c'
  | 'r' => some '\r'
  | '"' => some '"'
  | '\\' => some '\\'
  | _ => none

/-- Where the reading of a string stands with respect to an escaped line break. -/
inductive BreakMode where
  | text
  /-- After the backslash, before the break. -/
  | before
  /-- After the break: blanks are skipped. -/
  | after
deriving DecidableEq, Repr

/-- A string with escapes, after its opening quotes; `acc` holds the characters so far, last one first. -/
def basicString (lines : Bool) : BreakMode → List Char → List Char → Except TomlFault (String × List Char)
  | _, _, [] => fail .unclosedString
  | mode, acc, c :: cs =>
    if mode = .before then
      if isInlineBlank c then basicString lines .before acc cs
      else if c = '\n' then basicString lines .after acc cs
      else fail .escape
    else if mode = .after && (isInlineBlank c || c == '\n') then basicString lines .after acc cs
    else if c = '"' then
      if lines then
        match cs with
        | '"' :: '"' :: rest => .ok (String.ofList acc.reverse, rest)
        | _ => basicString lines .text ('"' :: acc) cs
      else .ok (String.ofList acc.reverse, cs)
    else if c = '\\' then
      match cs with
      | 'u' :: h₁ :: h₂ :: h₃ :: h₄ :: rest =>
        match charOfHex? [h₁, h₂, h₃, h₄] with
        | some d => basicString lines .text (d :: acc) rest
        | none => fail .escape
      | 'U' :: h₁ :: h₂ :: h₃ :: h₄ :: h₅ :: h₆ :: h₇ :: h₈ :: rest =>
        match charOfHex? [h₁, h₂, h₃, h₄, h₅, h₆, h₇, h₈] with
        | some d => basicString lines .text (d :: acc) rest
        | none => fail .escape
      | e :: rest =>
        if lines && isInlineBlank e then basicString lines .before acc rest
        else if lines && e == '\n' then basicString lines .after acc rest
        else match escaped? e with
          | some d => basicString lines .text (d :: acc) rest
          | none => fail .escape
      | [] => fail .escape
    else if (if lines then isIllegalInLines c else isIllegal c) then fail .character
    else basicString lines .text (c :: acc) cs

/-- A string without escapes, after its opening apostrophe. -/
def literalString (acc : List Char) : List Char → Except TomlFault (String × List Char)
  | [] => fail .unclosedString
  | '\'' :: rest => .ok (String.ofList acc.reverse, rest)
  | c :: rest => if isIllegal c then fail .character else literalString (c :: acc) rest

/-- A string of several lines without escapes, after its opening apostrophes. -/
def literalLines (acc : List Char) : List Char → Except TomlFault (String × List Char)
  | [] => fail .unclosedString
  | '\'' :: '\'' :: '\'' :: rest => .ok (String.ofList acc.reverse, rest)
  | c :: rest => if isIllegalInLines c then fail .character else literalLines (c :: acc) rest

/-- A string of several lines may end in one or two quotes of its own. -/
def withTrailing (quote : Char) : String × List Char → String × List Char
  | (s, a :: b :: rest) =>
    if a = quote then
      if b = quote then ((s.push quote).push quote, rest) else (s.push quote, b :: rest)
    else (s, a :: b :: rest)
  | (s, [a]) => if a = quote then (s.push quote, []) else (s, [a])
  | r => r

/-- A line break right after the opening quotes does not count. -/
def dropBreak : List Char → List Char
  | '\n' :: rest => rest
  | cs => cs

/-- A string, if the text starts with a quote. -/
def takeString? : List Char → Option (Except TomlFault (String × List Char))
  | '"' :: '"' :: '"' :: rest =>
    some ((basicString true .text [] (dropBreak rest)).map (withTrailing '"'))
  | '"' :: rest => some (basicString false .text [] rest)
  | '\'' :: '\'' :: '\'' :: rest =>
    some ((literalLines [] (dropBreak rest)).map (withTrailing '\''))
  | '\'' :: rest => some (literalString [] rest)
  | _ => none

/-! ## Numbers -/

/-- More digits, each possibly behind an underscore. -/
def moreDigits (isDigit : Char → Bool) : List Char → List Char × List Char
  | '_' :: c :: cs =>
    if isDigit c then
      let (more, rest) := moreDigits isDigit cs
      ('_' :: c :: more, rest)
    else ([], '_' :: c :: cs)
  | c :: cs =>
    if isDigit c then
      let (more, rest) := moreDigits isDigit cs
      (c :: more, rest)
    else ([], c :: cs)
  | [] => ([], [])

/-- One or more digits, with single underscores between them. -/
def takeDigits? (isDigit : Char → Bool) : List Char → Option (List Char × List Char)
  | c :: cs =>
    if isDigit c then
      let (more, rest) := moreDigits isDigit cs
      some (c :: more, rest)
    else none
  | [] => none

/-- The natural number with the given digits. -/
def ofBase (base : Nat) (digits : List Char) : Nat :=
  (digits.filterMap hexValue?).foldl (fun n d => base * n + d) 0

/-- A number in base 16, 8 or 2, if the text starts with one. -/
def takeBased? : List Char → Option (Value × List Char)
  | '0' :: mark :: cs =>
    let read (base : Nat) : Option (Value × List Char) :=
      (takeDigits? (fun c => (hexValue? c).any (· < base)) cs).map fun r =>
        (.int (ofBase base r.1), r.2)
    if mark = 'x' then read 16 else if mark = 'o' then read 8 else if mark = 'b' then read 2 else none
  | _ => none

/-- The whole part of a decimal number: a zero, or digits that do not start with one. -/
def takeWhole? : List Char → Option (List Char × List Char)
  | '0' :: cs => some (['0'], cs)
  | cs => takeDigits? (·.isDigit) cs

/-- A point with digits after it, if there is one. -/
def takeFraction : List Char → List Char × List Char
  | '.' :: cs =>
    match takeDigits? (·.isDigit) cs with
    | some (ds, rest) => ('.' :: ds, rest)
    | none => ([], '.' :: cs)
  | cs => ([], cs)

/-- A sign, if there is one. -/
def takeSign : List Char → List Char × List Char
  | '+' :: cs => (['+'], cs)
  | '-' :: cs => (['-'], cs)
  | cs => ([], cs)

/-- An exponent, if there is one. -/
def takeExponent : List Char → List Char × List Char
  | e :: cs =>
    if e = 'e' || e = 'E' then
      let (sign, after) := takeSign cs
      match takeDigits? (·.isDigit) after with
      | some (ds, rest) => (e :: sign ++ ds, rest)
      | none => ([], e :: cs)
    else ([], e :: cs)
  | [] => ([], [])

/-- A decimal number, if the text starts with one. With a fraction or an exponent it is a double. -/
def takeDecimal? (cs : List Char) : Option (Except TomlFault (Value × List Char)) :=
  let (sign, after) := takeSign cs
  (takeWhole? after).map fun (whole, rest) =>
    let (fraction, rest) := takeFraction rest
    let (exponent, rest) := takeExponent rest
    let text := String.ofList (sign ++ whole ++ fraction ++ exponent)
    if fraction.isEmpty && exponent.isEmpty then
      match Text.integer text with
      | .ok i => .ok (.int i, rest)
      | .error e => .error (.numeral e)
    else
      match Text.double? text with
      | some x => .ok (.float x, rest)
      | none => fail .value

/-- One of the words for infinity and for no number, if the text starts with one. -/
def takeSpecial? (cs : List Char) : Option (Value × List Char) :=
  let (sign, after) := takeSign cs
  let word := after.take 3
  if word = ['i', 'n', 'f'] || word = ['n', 'a', 'n'] then
    (Text.double? (String.ofList (sign ++ word))).map fun x => (.float x, after.drop 3)
  else none

/-! ## Dates and times -/

/-- The number with the given decimal digits, if all are digits. -/
def number? (digits : List Char) : Option Nat :=
  if digits.all (·.isDigit) then some (ofBase 10 digits) else none

def date? : List Char → Option (Date × List Char)
  | a :: b :: c :: d :: '-' :: e :: f :: '-' :: g :: h :: rest => do
    let year ← number? [a, b, c, d]
    let month ← number? [e, f]
    let day ← number? [g, h]
    if 1 ≤ month && month ≤ 12 && 1 ≤ day && day ≤ 31 then some (⟨year, month, day⟩, rest) else none
  | _ => none

/-- Digits of a second after the point: the first six count. -/
def microseconds (digits : List Char) : Nat :=
  ofBase 10 ((digits ++ List.replicate 6 '0').take 6)

def time? : List Char → Option (Time × List Char)
  | a :: b :: ':' :: c :: d :: ':' :: e :: f :: rest => do
    let hour ← number? [a, b]
    let minute ← number? [c, d]
    let second ← number? [e, f]
    if hour < 24 && minute < 60 && second < 60 then
      match rest with
      | '.' :: after =>
        let digits := after.takeWhile (·.isDigit)
        if digits.isEmpty then some (⟨hour, minute, second, 0⟩, rest)
        else some (⟨hour, minute, second, microseconds digits⟩, after.dropWhile (·.isDigit))
      | _ => some (⟨hour, minute, second, 0⟩, rest)
    else none
  | _ => none

/-- An offset from universal time, in minutes. -/
def takeOffset : List Char → Option Int × List Char
  | 'Z' :: rest | 'z' :: rest => (some 0, rest)
  | sign :: a :: b :: ':' :: c :: d :: rest =>
    let text := sign :: a :: b :: ':' :: c :: d :: rest
    match number? [a, b], number? [c, d] with
    | some hour, some minute =>
      if (sign = '+' || sign = '-') && hour < 24 && minute < 60 then
        let minutes : Int := 60 * hour + minute
        (some (if sign = '-' then -minutes else minutes), rest)
      else (none, text)
    | _, _ => (none, text)
  | rest => (none, rest)

def isLeap (year : Nat) : Bool :=
  year % 4 == 0 && (year % 100 != 0 || year % 400 == 0)

def daysIn (year month : Nat) : Nat :=
  if month = 2 then (if isLeap year then 29 else 28)
  else if month = 4 || month = 6 || month = 9 || month = 11 then 30
  else 31

def Date.isValid (d : Date) : Bool := 1 ≤ d.year && d.day ≤ daysIn d.year d.month

/-- A date, maybe with a time and an offset, if the text starts with one. -/
def takeMoment? (cs : List Char) : Option (Except TomlFault (Value × List Char)) :=
  (date? cs).map fun (date, rest) =>
    if !date.isValid then fail .date
    else
      let timed := match rest with
        | mark :: after => if mark = 'T' || mark = 't' || mark = ' ' then time? after else none
        | [] => none
      match timed with
      | some (time, rest) =>
        let (offset, rest) := takeOffset rest
        .ok (.moment date time offset, rest)
      | none => .ok (.date date, rest)

/-- A date, a time or a number. -/
def takeScalar (cs : List Char) : Except TomlFault (Value × List Char) :=
  match takeMoment? cs with
  | some r => r
  | none =>
    match time? cs with
    | some (time, rest) => .ok (.time time, rest)
    | none =>
      match takeBased? cs with
      | some r => .ok r
      | none =>
        match takeDecimal? cs with
        | some r => r
        | none =>
          match takeSpecial? cs with
          | some r => .ok r
          | none => fail .value

end LoanCheck.Toml

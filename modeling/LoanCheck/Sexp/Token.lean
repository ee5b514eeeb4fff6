import LoanCheck.Text.Blank

/-!
# Tokens of S-expressions

A text is cut into tokens by one pass over its characters. Between tokens the scanner skips blanks and
comments, which run from a semicolon to the end of the line. A word runs up to a bracket, a double quote,
a blank or a semicolon; an apostrophe inside of it is an ordinary character. In words and in strings a
backslash takes the next character with it, which may then stand for itself.
-/

namespace LoanCheck.Sexp

/-- The two kinds of brackets. -/
inductive Bracket where
  | round
  | square
deriving DecidableEq, Repr

namespace Bracket

def opener : Bracket → Char
  | round => '('
  | square => '['

def closer : Bracket → Char
  | round => ')'
  | square => ']'

end Bracket

/-- A token. -/
inductive Token where
  | opening (bracket : Bracket)
  /-- A closing bracket, with the text from the bracket on. -/
  | closing (bracket : Bracket) (text : List Char)
  /-- An apostrophe, with its position in the text. -/
  | apostrophe (position : Nat)
  | word (text : List Char)
  | string (text : List Char)
  /-- A string that the text ends in. -/
  | unclosedString
deriving DecidableEq, Repr

/-- What the scanner is inside of. Characters collected so far are kept last one first. -/
inductive Mode where
  | between
  | comment
  | word (collected : List Char)
  | wordEscape (collected : List Char)
  | string (collected : List Char)
  | stringEscape (collected : List Char)
deriving DecidableEq, Repr

/-- Ends a word. -/
def isDelimiter (c : Char) : Bool :=
  c == '(' || c == ')' || c == '[' || c == ']' || c == '"' || c == ';' || Text.isAsciiBlank c

/-- A backslash pair in a word: the character alone if it is special there, else both. Last one first. -/
def wordPair (c : Char) : List Char :=
  if ['\\', '\'', '"', '(', ')', '[', ']', ';', '#', ',', '?', '`', ' '].contains c then [c]
  else [c, '\\']

/-- A backslash pair in a string: the character it stands for, else both. Last one first. -/
def stringPair (c : Char) : List Char :=
  match c with
  | '\\' => ['\\']
  | '"' => ['"']
  | 'b' => ['\x08']
  | 'f' => ['\x0c']
  | 'n' => ['\n']
  | 'r' => ['\r']
  | 't' => ['\t']
  | c => [c, '\\']

/-- One character met between tokens: the token that it is, if it is one, and the mode after it. -/
def beginToken (position : Nat) (c : Char) (text : List Char) : Option Token × Mode :=
  match c with
  | '(' => (some (.opening .round), .between)
  | '[' => (some (.opening .square), .between)
  | ')' => (some (.closing .round text), .between)
  | ']' => (some (.closing .square text), .between)
  | '\'' => (some (.apostrophe position), .between)
  | '"' => (none, .string [])
  | ';' => (none, .comment)
  | '\\' => (none, .wordEscape [])
  | c => (none, if Text.isAsciiBlank c then .between else .word [c])

/-- The tokens of a text that starts at a position, inside of a mode. -/
def scanFrom : Mode → Nat → List Char → List Token
  | .between, _, [] => []
  | .comment, _, [] => []
  | .word collected, _, [] => [.word collected.reverse]
  | .wordEscape collected, _, [] => [.word ('\\' :: collected).reverse]
  | .string _, _, [] => [.unclosedString]
  | .stringEscape _, _, [] => [.unclosedString]
  | .between, i, c :: cs =>
    match beginToken i c (c :: cs) with
    | (some token, mode) => token :: scanFrom mode (i + 1) cs
    | (none, mode) => scanFrom mode (i + 1) cs
  | .comment, i, c :: cs => scanFrom (if c = '\n' then .between else .comment) (i + 1) cs
  | .word collected, i, c :: cs =>
    if c = '\\' then scanFrom (.wordEscape collected) (i + 1) cs
    else if isDelimiter c then
      match beginToken i c (c :: cs) with
      | (some token, mode) => .word collected.reverse :: token :: scanFrom mode (i + 1) cs
      | (none, mode) => .word collected.reverse :: scanFrom mode (i + 1) cs
    else scanFrom (.word (c :: collected)) (i + 1) cs
  | .wordEscape collected, i, c :: cs => scanFrom (.word (wordPair c ++ collected)) (i + 1) cs
  | .string collected, i, c :: cs =>
    if c = '\\' then scanFrom (.stringEscape collected) (i + 1) cs
    else if c = '"' then .string collected.reverse :: scanFrom .between (i + 1) cs
    else scanFrom (.string (c :: collected)) (i + 1) cs
  | .stringEscape collected, i, c :: cs => scanFrom (.string (stringPair c ++ collected)) (i + 1) cs

/-- The tokens of a text. -/
def scan (text : List Char) : List Token :=
  scanFrom .between 0 text

end LoanCheck.Sexp

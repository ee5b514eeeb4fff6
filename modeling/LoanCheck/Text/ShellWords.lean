/-!
# Shell words

Splits a text into words the way a shell does. Blanks divide words. A backslash keeps the next character as
it is. Between apostrophes everything stands for itself; between quotes a backslash counts only before a
quote or a backslash. An empty pair of quotes makes an empty word.
-/

namespace LoanCheck.Text

/-- Why a text has no words. -/
inductive ShellFault where
  | noClosingQuote
  | noEscapedChar
deriving DecidableEq, Repr

def ShellFault.message : ShellFault → String
  | noClosingQuote => "No closing quotation"
  | noEscapedChar => "No escaped character"

/-- Where the reading stands. -/
inductive ShellMode where
  | plain
  /-- After a backslash outside of quotes. -/
  | escape
  | apostrophes
  | quotes
  /-- After a backslash between quotes. -/
  | quotesEscape
deriving DecidableEq, Repr

def isShellBlank (c : Char) : Bool := c == ' ' || c == '\t' || c == '\r' || c == '\n'

/-- The word at hand: its characters, last one first, unless there is none yet. -/
abbrev OpenWord := Option (List Char)

namespace OpenWord

/-- Makes sure that there is a word, if only an empty one. -/
def begin (w : OpenWord) : OpenWord := some (w.getD [])

def push (w : OpenWord) (c : Char) : OpenWord := some (c :: w.getD [])

def finish (w : OpenWord) : List String :=
  match w with
  | some cs => [String.ofList cs.reverse]
  | none => []

end OpenWord

/-- The words from a point on. -/
def shellWordsFrom : ShellMode → OpenWord → List Char → Except ShellFault (List String)
  | .plain, w, [] => .ok w.finish
  | .escape, _, [] | .quotesEscape, _, [] => .error .noEscapedChar
  | .apostrophes, _, [] | .quotes, _, [] => .error .noClosingQuote
  | .plain, w, c :: cs =>
    if isShellBlank c then (shellWordsFrom .plain none cs).map (w.finish ++ ·)
    else if c = '\\' then shellWordsFrom .escape w cs
    else if c = '\'' then shellWordsFrom .apostrophes w.begin cs
    else if c = '"' then shellWordsFrom .quotes w.begin cs
    else shellWordsFrom .plain (w.push c) cs
  | .escape, w, c :: cs => shellWordsFrom .plain (w.push c) cs
  | .apostrophes, w, c :: cs =>
    if c = '\'' then shellWordsFrom .plain w cs else shellWordsFrom .apostrophes (w.push c) cs
  | .quotes, w, c :: cs =>
    if c = '"' then shellWordsFrom .plain w cs
    else if c = '\\' then shellWordsFrom .quotesEscape w cs
    else shellWordsFrom .quotes (w.push c) cs
  | .quotesEscape, w, c :: cs =>
    if c = '"' || c = '\\' then shellWordsFrom .quotes (w.push c) cs
    else shellWordsFrom .quotes ((w.push '\\').push c) cs

/-- The words of a text. -/
def shellWords (s : String) : Except ShellFault (List String) :=
  shellWordsFrom .plain none s.toList

end LoanCheck.Text

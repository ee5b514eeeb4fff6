/-!
# Lines

Two notions of a line. A text file is read with every carriage return, alone or before a line feed,
turned into a line feed (`unifyNewlines`). The lines of a text (`lines`) end at any of eleven breaks,
and a break at the very end opens no further line.
-/

namespace LoanCheck.Text

/-- Carriage returns, alone or before a line feed, become line feeds. -/
def unifyNewlines : List Char → List Char
  | '\r' :: '\n' :: rest => '\n' :: unifyNewlines rest
  | '\r' :: rest => '\n' :: unifyNewlines rest
  | c :: rest => c :: unifyNewlines rest
  | [] => []

/-- Characters that end a line. A carriage return with the line feed after it is one break. -/
def isLineBreak (c : Char) : Bool :=
  (0x0a ≤ c.toNat && c.toNat ≤ 0x0d) || (0x1c ≤ c.toNat && c.toNat ≤ 0x1e) ||
    c.toNat == 0x85 || c.toNat == 0x2028 || c.toNat == 0x2029

/-- Lines of a text; `current` holds the characters of the open line, last one first. -/
def linesFrom (current : List Char) : List Char → List String
  | [] => if current.isEmpty then [] else [String.ofList current.reverse]
  | '\r' :: '\n' :: rest => String.ofList current.reverse :: linesFrom [] rest
  | c :: rest =>
    if isLineBreak c then String.ofList current.reverse :: linesFrom [] rest
    else linesFrom (c :: current) rest

/-- The lines of a text, without their breaks. -/
def lines (s : String) : List String :=
  linesFrom [] s.toList

end LoanCheck.Text

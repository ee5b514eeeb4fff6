import LoanCheck.Text.CharSet

/-!
# Blank characters

`isBlank` is white space in the sense of Unicode 14 together with the four information separators:
what trimming removes and what a documentation tag skips. Numerals are trimmed of the smaller class
`isNumeralBlank`, and S-expressions are divided by the six blank characters `isAsciiBlank`.
-/

namespace LoanCheck.Text

/-- Blanks beyond ASCII. -/
def wideBlanks : CharSet where
  intervals := [(0x85, 0x85), (0xa0, 0xa0), (0x1680, 0x1680), (0x2000, 0x200a), (0x2028, 0x2029),
    (0x202f, 0x202f), (0x205f, 0x205f), (0x3000, 0x3000)]

/-- Space, tab, line feed, vertical tab, form feed, carriage return. -/
def isAsciiBlank (c : Char) : Bool :=
  c == ' ' || (0x09 ≤ c.toNat && c.toNat ≤ 0x0d)

/-- Blanks that may surround a numeral. -/
def isNumeralBlank (c : Char) : Bool :=
  isAsciiBlank c || wideBlanks.contains c

/-- Blanks that trimming removes. -/
def isBlank (c : Char) : Bool :=
  isNumeralBlank c || (0x1c ≤ c.toNat && c.toNat ≤ 0x1f)

/-- The text without the characters of a class at either end. -/
def trimWhere (p : Char → Bool) (cs : List Char) : List Char :=
  ((cs.dropWhile p).reverse.dropWhile p).reverse

/-- The text without the blanks at either end. -/
def trim (s : String) : String :=
  String.ofList (trimWhere isBlank s.toList)

end LoanCheck.Text

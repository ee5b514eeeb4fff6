import LoanCheck.Text.CharSet
import LoanCheck.Text.Uppercase

/-!
# Title case

Full title-case mapping of single characters (Unicode 14): the form of a letter at the front of a word. It is
the upper case, apart from letters that stand for several, where only the first of them becomes a capital,
and from letters that a word does not capitalise.
-/

namespace LoanCheck.Text

/-- Letters that are already as they stand at the front of a word, though they have an upper case. -/
def titleLetters : CharSet where
  intervals := [
    (0x1c5, 0x1c5), (0x1c8, 0x1c8), (0x1cb, 0x1cb), (0x1f2, 0x1f2), (0x10d0, 0x10fa),
    (0x10fd, 0x10ff), (0x1f88, 0x1f8f), (0x1f98, 0x1f9f), (0x1fa8, 0x1faf), (0x1fbc, 0x1fbc),
    (0x1fcc, 0x1fcc), (0x1ffc, 0x1ffc)]

/-- Letters whose title case is neither themselves nor their upper case. -/
def titleExpansions : List (Nat × List Nat) := [
  (0xdf, [0x53, 0x73]), (0x1c4, [0x1c5]), (0x1c6, [0x1c5]), (0x1c7, [0x1c8]), (0x1c9, [0x1c8]),
  (0x1ca, [0x1cb]), (0x1cc, [0x1cb]), (0x1f1, [0x1f2]), (0x1f3, [0x1f2]),
  (0x587, [0x535, 0x582]), (0x1f80, [0x1f88]), (0x1f81, [0x1f89]), (0x1f82, [0x1f8a]),
  (0x1f83, [0x1f8b]), (0x1f84, [0x1f8c]), (0x1f85, [0x1f8d]), (0x1f86, [0x1f8e]),
  (0x1f87, [0x1f8f]), (0x1f90, [0x1f98]), (0x1f91, [0x1f99]), (0x1f92, [0x1f9a]),
  (0x1f93, [0x1f9b]), (0x1f94, [0x1f9c]), (0x1f95, [0x1f9d]), (0x1f96, [0x1f9e]),
  (0x1f97, [0x1f9f]), (0x1fa0, [0x1fa8]), (0x1fa1, [0x1fa9]), (0x1fa2, [0x1faa]),
  (0x1fa3, [0x1fab]), (0x1fa4, [0x1fac]), (0x1fa5, [0x1fad]), (0x1fa6, [0x1fae]),
  (0x1fa7, [0x1faf]), (0x1fb2, [0x1fba, 0x345]), (0x1fb3, [0x1fbc]), (0x1fb4, [0x386, 0x345]),
  (0x1fb7, [0x391, 0x342, 0x345]), (0x1fc2, [0x1fca, 0x345]), (0x1fc3, [0x1fcc]),
  (0x1fc4, [0x389, 0x345]), (0x1fc7, [0x397, 0x342, 0x345]), (0x1ff2, [0x1ffa, 0x345]),
  (0x1ff3, [0x1ffc]), (0x1ff4, [0x38f, 0x345]), (0x1ff7, [0x3a9, 0x342, 0x345]),
  (0xfb00, [0x46, 0x66]), (0xfb01, [0x46, 0x69]), (0xfb02, [0x46, 0x6c]),
  (0xfb03, [0x46, 0x66, 0x69]), (0xfb04, [0x46, 0x66, 0x6c]), (0xfb05, [0x53, 0x74]),
  (0xfb06, [0x53, 0x74]), (0xfb13, [0x544, 0x576]), (0xfb14, [0x544, 0x565]),
  (0xfb15, [0x544, 0x56b]), (0xfb16, [0x54e, 0x576]), (0xfb17, [0x544, 0x56d])]

/-- Title case of one character, as text. -/
def titleChar (c : Char) : String :=
  if c.toNat < 0x80 then c.toUpper.toString
  else if titleLetters.contains c then c.toString
  else match titleExpansions.lookup c.toNat with
    | some ns => String.ofList (ns.map Char.ofNat)
    | none => upperChar c

end LoanCheck.Text

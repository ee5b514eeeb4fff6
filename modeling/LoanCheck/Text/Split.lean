/-!
# Cutting text at a character, and replacing it

A text is cut at every occurrence of a character, so `n` occurrences give `n + 1` pieces. A character is replaced
by the same text wherever it occurs.
-/

namespace LoanCheck.Text

/-- The pieces between the occurrences of `sep`. -/
def splitChars (sep : Char) : List Char → List (List Char)
  | [] => [[]]
  | c :: cs =>
    if c = sep then [] :: splitChars sep cs
    else match splitChars sep cs with
      | [] => [[c]]
      | piece :: pieces => (c :: piece) :: pieces

/-- The pieces of a text between the occurrences of `sep`. -/
def split (sep : Char) (s : String) : List String :=
  (splitChars sep s.toList).map String.ofList

/-- The text with other text in place of every occurrence of `c`. -/
def replaceChar (s : String) (c : Char) (replacement : String) : String :=
  String.ofList (s.toList.flatMap fun d => if d = c then replacement.toList else [d])

theorem toList_replaceChar (s : String) (c : Char) (replacement : String) :
    (replaceChar s c replacement).toList = s.toList.flatMap fun d => if d = c then replacement.toList else [d] :=
  String.toList_ofList

end LoanCheck.Text

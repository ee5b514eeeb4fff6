import LoanCheck.Text.Blank
import LoanCheck.Text.Digit
import LoanCheck.Text.Quoted

/-!
# Numerals

Texts that stand for numbers. Blanks around a numeral are ignored, an optional sign comes first, decimal
digits of every script count, and single underscores may stand between digits. `integer` reads whole
numbers, with a limit on their length; `decimal?` reads numbers with a point or an exponent, and the
words for infinity and for no number.
-/

namespace LoanCheck.Text

/-- Longest integer numeral, in digits. -/
def maxDigits : Nat := 4300

/-- The integer has few enough digits to be written. -/
def isWritable (i : Int) : Bool := i.natAbs < Nat.pow 10 maxDigits

/-- Why a text is no integer numeral, or an integer has none. -/
inductive NumeralFault where
  | malformed (text : String)
  /-- More digits than allowed. -/
  | tooLong (digits : Nat)
  /-- An integer with more digits than allowed. -/
  | unwritable
deriving DecidableEq, Repr

/-- How much of a malformed numeral is shown, in characters, the quotes around it included. -/
def maxShown : Nat := 200

def NumeralFault.message : NumeralFault → String
  | malformed text =>
    "invalid literal for int() with base 10: " ++ String.ofList ((quoted text).toList.take maxShown)
  | tooLong digits =>
    s!"Exceeds the limit ({maxDigits} digits) for integer string conversion: value has {digits} digits; " ++
      "use sys.set_int_max_str_digits() to increase the limit"
  | unwritable =>
    s!"Exceeds the limit ({maxDigits} digits) for integer string conversion; " ++
      "use sys.set_int_max_str_digits() to increase the limit"

/-- A sign, if there is one; `true` is minus. -/
def takeSign : List Char → Bool × List Char
  | '-' :: rest => (true, rest)
  | '+' :: rest => (false, rest)
  | cs => (false, cs)

/-- The rest of a run of digits: place values, and what follows. An underscore must have a digit after it.
-/
def moreDigits : List Char → Option (List Nat × List Char)
  | [] => some ([], [])
  | ['_'] => none
  | '_' :: c :: rest =>
    match decimalValue? c with
    | some d => (moreDigits rest).map fun r => (d :: r.1, r.2)
    | none => none
  | c :: rest =>
    match decimalValue? c with
    | some d => (moreDigits rest).map fun r => (d :: r.1, r.2)
    | none => some ([], c :: rest)

/-- The longest run of digits, with single underscores between digits, at the front of a text: the place
values, and what follows. The run may be empty. -/
def takeDigits (cs : List Char) : Option (List Nat × List Char) :=
  if cs.head? = some '_' then none else moreDigits cs

/-- The number with the given decimal digits. -/
def ofDigits (ds : List Nat) : Nat :=
  ds.foldl (fun n d => 10 * n + d) 0

/-- Reads an integer numeral. A run of too many digits is reported before anything that follows it. -/
def integer (s : String) : Except NumeralFault Int :=
  let (negative, rest) := takeSign (s.toList.dropWhile isNumeralBlank)
  match takeDigits rest with
  | none => .error (.malformed s)
  | some (ds, after) =>
    if maxDigits < ds.length then .error (.tooLong ds.length)
    else if ds.isEmpty || !after.all isNumeralBlank then .error (.malformed s)
    else .ok (if negative then -(ofDigits ds : Int) else ofDigits ds)

/-- A number in decimal notation. -/
inductive DecimalNumber where
  /-- The value `coefficient * 10 ^ power`, negated if `negative`. -/
  | finite (negative : Bool) (coefficient : Nat) (power : Int)
  | infinite (negative : Bool)
  | nan
deriving DecidableEq, Repr

/-- The text is one of the words, in any mixture of cases. -/
def isWordOf (words : List String) (cs : List Char) : Bool :=
  words.contains (String.ofList (cs.map Char.toLower))

/-- An exponent, if there is one: its value, and what follows. -/
def takeExponent : List Char → Option (Int × List Char)
  | c :: cs =>
    if c == 'e' || c == 'E' then
      let (negative, rest) := takeSign cs
      match takeDigits rest with
      | some (ds, after) =>
        if ds.isEmpty then none
        else some (if negative then -(ofDigits ds : Int) else ofDigits ds, after)
      | none => none
    else some (0, c :: cs)
  | [] => some (0, [])

/-- An unsigned decimal numeral. -/
def unsignedDecimal? (negative : Bool) (cs : List Char) : Option DecimalNumber := do
  let (whole, rest) ← takeDigits cs
  let (places, rest) ← match rest with
    | '.' :: rest => takeDigits rest
    | rest => some ([], rest)
  if whole.isEmpty && places.isEmpty then none
  let (power, rest) ← takeExponent rest
  if rest.isEmpty then
    some (.finite negative (ofDigits (whole ++ places)) (power - places.length))
  else none

/-- Reads a decimal numeral. -/
def decimal? (s : String) : Option DecimalNumber :=
  let (negative, cs) := takeSign (trimWhere isNumeralBlank s.toList)
  if isWordOf ["inf", "infinity"] cs then some (.infinite negative)
  else if isWordOf ["nan"] cs then some .nan
  else unsignedDecimal? negative cs

namespace DecimalNumber

/-- Positive infinity. -/
def infinity : Float := 1.0 / 0.0

/-- The nearest double to `coefficient * 10 ^ power`. Values far outside of the range of doubles are
decided by their order of magnitude, before any large power is computed. -/
def nearestDouble (coefficient : Nat) (power : Int) : Float :=
  let magnitude : Int := (Nat.toDigits 10 coefficient).length + power
  if coefficient = 0 ∨ magnitude < -400 then 0.0
  else if 400 < magnitude then infinity
  else OfScientific.ofScientific coefficient (decide (power < 0)) power.natAbs

/-- The nearest double. -/
def toDouble : DecimalNumber → Float
  | finite negative coefficient power =>
    let x := nearestDouble coefficient power
    if negative then -x else x
  | infinite negative => if negative then -infinity else infinity
  | nan => 0.0 / 0.0

end DecimalNumber

/-- Reads a decimal numeral as a double. -/
def double? (s : String) : Option Float :=
  (decimal? s).map (·.toDouble)

end LoanCheck.Text

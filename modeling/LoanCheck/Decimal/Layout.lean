import LoanCheck.Decimal.Shortest

/-!
# Texts of doubles

Three ways to write a double: with the shortest digits that read back (`roundTrip`), with six
significant digits (`general`), and with three places after the point (`fixed3`). The first two share a
layout: positional notation between two powers of ten, and an exponent of at least two digits outside.
-/

namespace LoanCheck.Decimal

/-- Decisions of a layout. -/
structure Layout where
  /-- Leading powers below this one are written with an exponent. -/
  firstPositional : Int
  /-- Leading powers from this one on are written with an exponent. -/
  endPositional : Int
  /-- A whole number in positional notation gets `.0`. -/
  markWhole : Bool
deriving DecidableEq, Repr

/-- Exponents have a sign and at least two digits. -/
def exponentText (power : Int) : List Char :=
  let ds := Nat.toDigits 10 power.natAbs
  (if power < 0 then '-' else '+') :: (List.replicate (2 - ds.length) '0' ++ ds)

/-- Significant digits with the power of ten of the first one, laid out. -/
def Layout.write (l : Layout) (digits : List Char) (leading : Int) : List Char :=
  if l.firstPositional ≤ leading ∧ leading < l.endPositional then
    if leading < 0 then
      '0' :: '.' :: (List.replicate (-leading - 1).toNat '0' ++ digits)
    else
      let whole := leading.toNat + 1
      if digits.length ≤ whole then
        digits ++ List.replicate (whole - digits.length) '0' ++ (if l.markWhole then ['.', '0'] else [])
      else digits.take whole ++ '.' :: digits.drop whole
  else
    match digits with
    | [] => []
    | [d] => d :: 'e' :: exponentText leading
    | d :: ds => d :: '.' :: (ds ++ 'e' :: exponentText leading)

/-- Text of a double, given the text of a finite magnitude. -/
def textWith (magnitude : Nat → Int → List Char) (x : Float) : String :=
  match view x with
  | .nan => "nan"
  | .infinite negative => if negative then "-inf" else "inf"
  | .finite negative m e =>
    String.ofList ((if negative then ['-'] else []) ++ magnitude m e)

/-- Shortest digits: positional from `1e-4` to below `1e16`, whole numbers marked. -/
def roundTripLayout : Layout := ⟨-4, 16, true⟩

/-- The shortest text that reads back as the double. -/
def roundTrip : Float → String :=
  textWith fun m e =>
    if m = 0 then roundTripLayout.write ['0'] 0
    else
      let d := shortest m e
      roundTripLayout.write d.significant d.leading

/-- Six significant digits: positional from `1e-4` to below `1e6`, no zeros at the end. -/
def generalLayout : Layout := ⟨-4, 6, false⟩

/-- The value rounded to `count` significant digits. -/
def roundTo (count : Nat) (value : Ratio) : Digits :=
  let power := value.leadingPower - (count - 1 : Nat)
  ⟨(value.scale 10 (-power)).round, power⟩

/-- The double with six significant digits. -/
def general : Float → String :=
  textWith fun m e =>
    if m = 0 then generalLayout.write ['0'] 0
    else
      let d := roundTo 6 ((Ratio.mk m 1).scale 2 e)
      generalLayout.write d.significant d.leading

/-- The double with three places after the point. -/
def fixed3 : Float → String :=
  textWith fun m e =>
    let thousandths := ((Ratio.mk m 1).scale 2 e |>.scale 10 3).round
    let places := Nat.toDigits 10 (thousandths % 1000)
    Nat.toDigits 10 (thousandths / 1000) ++
      '.' :: (List.replicate (3 - places.length) '0' ++ places)

end LoanCheck.Decimal

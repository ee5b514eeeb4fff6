import LoanCheck.Decimal.Double

/-!
# Shortest decimals

The fewest significant digits that read back as a given double. A decimal reads back as the double if
it lies in the interval of numbers that round to it; the ends belong to the interval exactly when the
mantissa is even. For each number of digits only the two neighbours of the value on that decimal grid
are tried, and of two that lie in the interval the nearer one is taken, the even one on a tie.
-/

namespace LoanCheck.Decimal

/-- A positive decimal: `coefficient * 10 ^ power`. -/
structure Digits where
  coefficient : Nat
  power : Int
deriving DecidableEq, Repr

namespace Digits

def toRatio (d : Digits) : Ratio := (Ratio.mk d.coefficient 1).scale 10 d.power

/-- The digits of the coefficient. -/
def chars (d : Digits) : List Char := Nat.toDigits 10 d.coefficient

/-- The digits without zeros at the end. -/
def significant (d : Digits) : List Char :=
  match (d.chars.reverse.dropWhile (· == '0')).reverse with
  | [] => ['0']
  | cs => cs

/-- The power of ten of the leading digit. -/
def leading (d : Digits) : Int := d.power + (d.chars.length - 1 : Nat)

end Digits

/-- The numbers that round to one double. -/
structure Interval where
  lower : Ratio
  upper : Ratio
  closed : Bool

def Interval.contains (i : Interval) (r : Ratio) : Bool :=
  if i.closed then i.lower.le r && r.le i.upper else i.lower.lt r && r.lt i.upper

/-- The rounding interval of `mantissa * 2 ^ exponent`. Below a power of two the next double is only
half as far away. -/
def Interval.of (mantissa : Nat) (exponent : Int) : Interval :=
  let quarter (n : Nat) : Ratio := (Ratio.mk n 1).scale 2 (exponent - 2)
  let below := if mantissa = normalMantissa ∧ exponent ≠ leastExponent then 1 else 2
  ⟨quarter (4 * mantissa - below), quarter (4 * mantissa + 2), mantissa % 2 = 0⟩

/-- The decimal with `count` digits nearest to the value among those in the interval. -/
def nearestOf (value : Ratio) (interval : Interval) (count : Nat) : Option Digits :=
  let power := value.leadingPower - (count - 1 : Nat)
  let onGrid := value.scale 10 (-power)
  let down : Digits := ⟨onGrid.floor, power⟩
  let up : Digits := ⟨onGrid.floor + 1, power⟩
  match interval.contains down.toRatio, interval.contains up.toRatio with
  | true, true => some (if onGrid.round = down.coefficient then down else up)
  | true, false => some down
  | false, true => some up
  | false, false => none

/-- The shortest decimal that reads back as `mantissa * 2 ^ exponent`, for a positive mantissa. Seventeen
digits always suffice. -/
def shortest (mantissa : Nat) (exponent : Int) : Digits :=
  let value := (Ratio.mk mantissa 1).scale 2 exponent
  let interval := Interval.of mantissa exponent
  ((List.range' 1 17).findSome? (nearestOf value interval)).getD ⟨mantissa, 0⟩

end LoanCheck.Decimal

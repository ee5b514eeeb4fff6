/-!
# Doubles as exact numbers

A finite double is an integer times a power of two. `DoubleView` makes that integer and that power
visible, and `Ratio` is the value as a fraction of naturals, so that all rounding can be exact.
-/

namespace LoanCheck.Decimal

/-- What a double stands for. -/
inductive DoubleView where
  | nan
  | infinite (negative : Bool)
  /-- The value `mantissa * 2 ^ exponent`, negated if `negative`. -/
  | finite (negative : Bool) (mantissa : Nat) (exponent : Int)
deriving DecidableEq, Repr

/-- Least exponent of a double. -/
def leastExponent : Int := -1074

/-- Mantissas of normal doubles start here. -/
def normalMantissa : Nat := Nat.pow 2 52

/-- Reads sign, exponent and mantissa off the bits of a double. -/
def DoubleView.ofBits (bits : Nat) : DoubleView :=
  let negative := bits / Nat.pow 2 63 % 2 == 1
  let exponent := bits / normalMantissa % Nat.pow 2 11
  let fraction := bits % normalMantissa
  if exponent = 2047 then
    if fraction = 0 then .infinite negative else .nan
  else if exponent = 0 then .finite negative fraction leastExponent
  else .finite negative (normalMantissa + fraction) (leastExponent + (exponent - 1 : Nat))

def view (x : Float) : DoubleView :=
  DoubleView.ofBits x.toBits.toNat

/-- A non-negative fraction. -/
structure Ratio where
  num : Nat
  den : Nat
deriving DecidableEq, Repr

namespace Ratio

/-- The fraction times a power of a base. -/
def scale (r : Ratio) (base : Nat) (power : Int) : Ratio :=
  if power < 0 then ⟨r.num, r.den * base.pow (-power).toNat⟩
  else ⟨r.num * base.pow power.toNat, r.den⟩

def floor (r : Ratio) : Nat := r.num / r.den

/-- The nearest natural; a half goes to the even neighbour. -/
def round (r : Ratio) : Nat :=
  let q := r.num / r.den
  let rest := 2 * (r.num % r.den)
  if rest < r.den then q
  else if r.den < rest then q + 1
  else if q % 2 = 0 then q else q + 1

/-- `r < s`, for positive denominators. -/
def lt (r s : Ratio) : Bool := r.num * s.den < s.num * r.den

/-- `r ≤ s`, for positive denominators. -/
def le (r s : Ratio) : Bool := r.num * s.den ≤ s.num * r.den

/-- The power of ten of the leading digit of a positive fraction. -/
def leadingPower (r : Ratio) : Int :=
  let guess : Int := (Nat.toDigits 10 r.num).length - (Nat.toDigits 10 r.den).length
  if r.lt (Ratio.mk 1 1 |>.scale 10 guess) then guess - 1 else guess

end Ratio

end LoanCheck.Decimal

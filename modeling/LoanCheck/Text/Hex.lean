/-!
# Hexadecimal text

Code points in escapes are written with lower-case hexadecimal digits and a fixed least width.
-/

namespace LoanCheck.Text

/-- Lower-case hexadecimal digits of `n`, with zeros in front up to `width` digits. -/
def paddedHex (width n : Nat) : List Char :=
  let ds := Nat.toDigits 16 n
  List.replicate (width - ds.length) '0' ++ ds

end LoanCheck.Text

import LoanCheck.Config.Settings
import Mathlib.Algebra.Group.Nat.Defs

/-!
# Doubles of whole numbers

A whole number that becomes a finite double becomes the one next to it (`eq_ofInt_of_doubleOfInt?`), and those below
`2 ^ 1024 - 2 ^ 970`, the middle between the largest double and the power of two beyond all doubles, become finite
doubles (`isSome_doubleOfInt?`). `Moderate` bounds the place of the last digit of a number.
Rounding keeps the magnitude of a number unless there is a carry (`moderate_roundWithAccuracy`), and the bits of a
double keep the bound (`moderate_unpack_pack`). Numbers of at most 53 digits are converted as they are and multiplied
by one; longer ones are rounded once.
-/

namespace LoanCheck.Decimal

open Float.Model (Format UnpackedFloat totalExponent)
open Float.Model.UnpackedFloat

/-- A finite number of the precision of doubles whose last place is at most `2 ^ place`. -/
inductive Moderate (place : Int) : UnpackedFloat → Prop
  | zero (s : Sign) : Moderate place (.zero s)
  | finite (s : Sign) {m : Nat} {e : Int} (hm : 0 < m) : m < 2 ^ 53 → e ≤ place → Moderate place (.finite s m e hm)

/-- A mantissa with nothing behind its last digit. -/
def whole (m : Nat) : ExtendedMantissa :=
  ⟨m, false, false⟩

theorem mantissa_shiftRight (em : ExtendedMantissa) (k : Nat) : (em >>> k).mantissa = em.mantissa / 2 ^ k := by
  induction k with
  | zero => simp [HShiftRight.hShiftRight, Nat.repeat]
  | succ k ih =>
    have hstep : (em >>> (k + 1)).mantissa = (em >>> k).mantissa / 2 := rfl
    rw [hstep, ih, Nat.div_div_eq_div_mul, Nat.pow_succ]

theorem roundedMantissa_le_succ (em : ExtendedMantissa) : em.roundedMantissa ≤ em.mantissa + 1 := by
  obtain ⟨m, round, sticky⟩ := em
  cases round <;> cases sticky <;>
    simp only [ExtendedMantissa.roundedMantissa, ExtendedMantissa.accuracy, Accuracy.roundToNearestEven] <;> omega

/-- A number is rounded up only from the middle on. -/
theorem roundedMantissa_of_roundBit {em : ExtendedMantissa} (h : em.roundBit = false) :
    em.roundedMantissa = em.mantissa := by
  obtain ⟨m, round, sticky⟩ := em
  cases h
  cases sticky <;> rfl

theorem roundedMantissa_shiftRightOne_le (em : ExtendedMantissa) :
    em.shiftRightOne.roundedMantissa ≤ (em.mantissa + 1) / 2 := by
  have hmantissa : em.shiftRightOne.mantissa = em.mantissa / 2 := rfl
  rcases Nat.mod_two_eq_zero_or_one em.mantissa with heven | hodd
  · have hround : em.shiftRightOne.roundBit = false := by simp [ExtendedMantissa.shiftRightOne, heven]
    rw [roundedMantissa_of_roundBit hround, hmantissa]
    omega
  · have hround := roundedMantissa_le_succ em.shiftRightOne
    omega

theorem roundedMantissa_le {m k b : Nat} (h : 2 * m < (2 * b + 1) * 2 ^ k) :
    (whole m >>> k).roundedMantissa ≤ b := by
  cases k with
  | zero =>
    have hround : (whole m >>> 0).roundedMantissa = m := rfl
    omega
  | succ k =>
    have hquotient : m / 2 ^ k < 2 * b + 1 := by
      rw [Nat.div_lt_iff_lt_mul (Nat.two_pow_pos k)]
      rw [Nat.pow_succ, ← Nat.mul_assoc] at h
      omega
    calc (whole m >>> (k + 1)).roundedMantissa
        ≤ ((whole m >>> k).mantissa + 1) / 2 := roundedMantissa_shiftRightOne_le _
      _ = (m / 2 ^ k + 1) / 2 := by rw [mantissa_shiftRight, whole]
      _ ≤ b := by omega

/-! ## Rounding -/

/-- The place that a number is rounded to. -/
def lastPlace (m : Nat) (e : Int) : Int :=
  max (m.log2 + 1 + e - 53) (-1074)

/-- How far the digits of a number are moved before it is rounded. -/
def excess (m : Nat) (e : Int) : Nat :=
  (lastPlace m e - e).toNat

theorem shiftToTargetExponent_eq (m : Nat) (e : Int) : shiftToTargetExponent .binary64 m e .exact =
    (whole m >>> excess m e, max e (lastPlace m e)) := by
  have htarget : Format.binary64.targetExponent (totalExponent m e) = lastPlace m e := rfl
  rw [shiftToTargetExponent, htarget, shiftToExponent]
  refine Prod.ext rfl ?_
  show e + ((lastPlace m e - e).toNat : Int) = max e (lastPlace m e)
  omega

theorem log2_lt_of_lt {n k : Nat} (hk : 0 < k) (h : n < 2 ^ k) : n.log2 < k := by
  by_cases hn : n = 0
  · subst hn
    exact hk
  · exact (Nat.log2_lt hn).2 h

theorem mantissa_div_excess_lt (m : Nat) (e : Int) : m / 2 ^ excess m e < 2 ^ 53 := by
  have hsize : m < 2 ^ (m.log2 + 1) := Nat.lt_log2_self
  rw [Nat.div_lt_iff_lt_mul (Nat.two_pow_pos _), ← Nat.pow_add]
  refine Nat.lt_of_lt_of_le hsize (Nat.pow_le_pow_right (by decide) ?_)
  simp only [excess, lastPlace]
  omega

/-- A carry makes the number one digit longer, and the last digit is then a zero. -/
theorem shiftToTargetExponent_of_le {r : Nat} {e : Int} (hr : r ≤ 2 ^ 53) (he : -1074 ≤ e) :
    (shiftToTargetExponent .binary64 r e .exact).2 = if r < 2 ^ 53 then e else e + 1 := by
  rw [shiftToTargetExponent_eq]
  by_cases hlt : r < 2 ^ 53
  · have hlog := log2_lt_of_lt (by decide) hlt
    simp only [lastPlace, hlt, if_true]
    omega
  · have hlog : r.log2 = 53 := by
      rw [Nat.le_antisymm hr (Nat.le_of_not_lt hlt), Nat.log2_two_pow]
    simp only [lastPlace, hlt, if_false, hlog]
    omega

/-- A number of at least the precision of doubles has its own magnitude after rounding, or the next one
when it is rounded up to a power of two. -/
theorem moderate_roundWithAccuracy (s : Sign) {m : Nat} {e place : Int} (hm : 52 ≤ m.log2)
    (hplace : lastPlace m e ≤ place)
    (hcarry : (whole m >>> excess m e).roundedMantissa < 2 ^ 53 ∨ lastPlace m e < place) :
    Moderate place (roundWithAccuracy .binary64 s m e .exact) := by
  have hlast : max e (lastPlace m e) = lastPlace m e := by
    simp only [lastPlace]
    omega
  have hbottom : -1074 ≤ lastPlace m e := Int.le_max_right _ _
  unfold roundWithAccuracy
  rw [shiftToTargetExponent_eq, hlast]
  dsimp only
  generalize hr : (whole m >>> excess m e).roundedMantissa = r at hcarry ⊢
  have hrounded : r ≤ 2 ^ 53 := by
    have hup := roundedMantissa_le_succ (whole m >>> excess m e)
    rw [mantissa_shiftRight, hr] at hup
    exact Nat.le_trans hup (mantissa_div_excess_lt m e)
  have hdigits : (shiftToTargetExponent .binary64 r (lastPlace m e) .exact).1.mantissa < 2 ^ 53 := by
    rw [shiftToTargetExponent_eq, mantissa_shiftRight]
    exact mantissa_div_excess_lt r _
  have hexponent : (shiftToTargetExponent .binary64 r (lastPlace m e) .exact).2 ≤ place := by
    rw [shiftToTargetExponent_of_le hrounded hbottom]
    split <;> omega
  generalize shiftToTargetExponent .binary64 r (lastPlace m e) .exact = shifted at hdigits hexponent ⊢
  obtain ⟨digits, exponent⟩ := shifted
  show Moderate place (if h : digits.mantissa = 0 then .zero s
    else .finite s digits.mantissa exponent (Nat.pos_of_ne_zero h))
  by_cases hzero : digits.mantissa = 0
  · rw [dif_pos hzero]
    exact .zero s
  · rw [dif_neg hzero]
    exact .finite s _ hdigits hexponent

/-! ## Bits -/

theorem moderate_unpack {place : Int} (hbottom : -1074 ≤ place) {b : BitVec Format.binary64.numBits}
    (hfinite : (unpackExponent b).toNat < 2047) (hplace : ((unpackExponent b).toNat : Int) ≤ place + 1075) :
    Moderate place (unpack .binary64 b) := by
  have hbias : (Format.binary64.exponentBias : Int) + Format.binary64.mantissaBitsWithoutImplicit = 1075 := rfl
  have hones : unpackExponent b ≠ -1#_ := by
    intro h
    rw [h] at hfinite
    exact absurd hfinite (by decide)
  unfold unpack
  extract_lets mantissa exponent shifted _ s
  rw [if_neg (show ¬exponent = _ from hones)]
  have hexponent : (exponent.toNat : Int) ≤ place + 1075 := hplace
  by_cases hleast : exponent = 0#_
  · -- numbers without a leading one have the least exponent, and their place is the next one
    have hzero : exponent.toNat = 0 := by rw [hleast]; rfl
    rw [if_pos hleast]
    by_cases hmantissa : mantissa = 0#_
    · rw [dif_pos hmantissa]
      exact .zero s
    · rw [dif_neg hmantissa]
      exact .finite s _ (Nat.lt_trans mantissa.isLt (by decide)) (by omega)
  · rw [if_neg hleast]
    exact .finite s _ (BitVec.isLt (1#1 ++ mantissa)) (by omega)

theorem toNat_unpackExponent_pack_le (s : Sign) {m : Nat} {e : Int} (hm : 0 < m) (he : e ≤ 971) :
    (unpackExponent (pack .binary64 (.finite s m e hm))).toNat ≤ (e + 1075).toNat := by
  have hbias : (e + Format.binary64.exponentBias + Format.binary64.mantissaBitsWithoutImplicit).toNat =
      (e + 1075).toNat := by
    rw [Int.add_assoc]
    rfl
  have hroom : ¬2 ^ Format.binary64.exponentBits ≤ (e + 1075).toNat + 1 := by
    show ¬2048 ≤ (e + 1075).toNat + 1
    omega
  unfold pack
  rw [hbias, if_neg hroom]
  split
  · rw [unpackExponent_packComponents, BitVec.toNat_ofNat]
    exact Nat.mod_le _ _
  · rw [unpackExponent_packComponents]
    exact Nat.zero_le _

theorem moderate_unpack_pack {place : Int} (hbottom : -1074 ≤ place) (htop : place ≤ 971) {u : UnpackedFloat}
    (hu : Moderate place u) : Moderate place (unpack .binary64 (pack .binary64 u)) := by
  cases hu with
  | zero s =>
    have hexponent : (unpackExponent (pack .binary64 (.zero s))).toNat = 0 := by
      show (unpackExponent (packComponents .binary64 s 0 0)).toNat = 0
      rw [unpackExponent_packComponents]
      rfl
    exact moderate_unpack hbottom (by omega) (by omega)
  | finite s hm hdigits hplace =>
    have hexponent := toNat_unpackExponent_pack_le s hm (Int.le_trans hplace htop)
    exact moderate_unpack hbottom (by omega) (by omega)

theorem Moderate.isInf_eq_false {place : Int} {u : UnpackedFloat} (hu : Moderate place u) : u.isInf = false := by
  cases hu <;> rfl

/-! ## Whole numbers -/

theorem log2_shiftLeft {n : Nat} (h : n ≠ 0) (k : Nat) : (n <<< k).log2 = n.log2 + k := by
  induction k with
  | zero => rfl
  | succ k ih =>
    have hne : n <<< k ≠ 0 := by simpa using h
    rw [Nat.shiftLeft_succ, Nat.log2_two_mul hne, ih, Nat.add_assoc]

theorem moderate_ofNat {n : Nat} (h : n < 2 ^ 53) : Moderate 1 (UnpackedFloat.ofNat .binary64 n) := by
  rcases Nat.eq_zero_or_pos n with rfl | hpos
  · exact .zero _
  have hcompare : compare (n : Int) 0 = .gt := by
    rw [Int.compare_eq_gt]
    omega
  have hlog := log2_lt_of_lt (by decide) h
  have htarget : (Format.binary64.targetExponent (totalExponent n 0)) = (n.log2 : Int) - 52 := by
    show max ((n.log2 : Int) + 1 + 0 - 53) (-1074) = n.log2 - 52
    omega
  have hmoved : ((0 : Int) - ((n.log2 : Int) - 52)).toNat = 52 - n.log2 := by omega
  rw [UnpackedFloat.ofNat, UnpackedFloat.ofInt, UnpackedFloat.normalize, hcompare]
  simp only [UnpackedFloat.round, htarget, decreaseExponent, Int.toNat_natCast, hmoved]
  have hlong : (n <<< (52 - n.log2)).log2 = 52 := by
    rw [log2_shiftLeft (Nat.ne_of_gt hpos)]
    omega
  have hlast : lastPlace (n <<< (52 - n.log2)) (0 - ((52 - n.log2 : Nat) : Int)) < 1 := by
    simp only [lastPlace, hlong]
    omega
  exact moderate_roundWithAccuracy _ (Nat.le_of_eq hlong.symm) (Int.le_of_lt hlast) (.inr hlast)

theorem moderate_mul_one {place : Int} (hbottom : -1074 ≤ place) {u : UnpackedFloat} (hu : Moderate place u) :
    Moderate (place + 1) (mul .binary64 u (.finite .positive (2 ^ 52) (-52) (by decide))) := by
  cases hu with
  | zero s => exact .zero _
  | @finite s m e hm hdigits hplace =>
    have hlog : (m * 2 ^ 52).log2 = m.log2 + 52 := by
      rw [← Nat.shiftLeft_eq, log2_shiftLeft (Nat.ne_of_gt hm)]
    have hlast : lastPlace (m * 2 ^ 52) (e + -52) < place + 1 := by
      have hsize := log2_lt_of_lt (by decide) hdigits
      simp only [lastPlace, hlog]
      omega
    exact moderate_roundWithAccuracy _ (by omega) (Int.le_of_lt hlast) (.inr hlast)

/-- A number is rounded up to the power of two beyond all doubles only from the middle between that power
and the largest double on. -/
theorem moderate_ofScientific {n : Nat} (hne : n ≠ 0) (h : n < 2 ^ 1024 - 2 ^ 970) :
    Moderate 971 (ofScientific .binary64 n 0) := by
  have hlog : (n <<< 53).log2 = n.log2 + 53 := log2_shiftLeft hne 53
  have hsize : n.log2 < 1024 := log2_lt_of_lt (by decide) (Nat.lt_of_lt_of_le h (Nat.sub_le _ _))
  have hlast : lastPlace (n <<< 53) (-53) = n.log2 - 52 := by
    simp only [lastPlace, hlog]
    omega
  have hfloor : ¬(0 : Int) < -((2 ^ Format.binary64.exponentBits : Int) + n.log2) := by
    show ¬(0 : Int) < -(2048 + n.log2)
    omega
  have hproduct : ofScientific .binary64 n 0 =
      roundWithAccuracy .binary64 .positive (n <<< 53 * 10 ^ 0) (-53 + 0) .exact := by
    rw [ofScientific, dif_neg hne, if_neg (by decide), if_neg hfloor, if_pos (by decide)]
    rfl
  rw [Nat.pow_zero, Nat.mul_one, Int.add_zero] at hproduct
  rw [hproduct]
  refine moderate_roundWithAccuracy _ (by omega) (by omega) ?_
  by_cases hlength : n.log2 < 1023
  · exact .inr (by omega)
  · refine .inl ?_
    have hexcess : excess (n <<< 53) (-53) = 1024 := by
      simp only [excess, hlast]
      omega
    have hmiddle : 2 * n <<< 53 < (2 * (2 ^ 53 - 1) + 1) * 2 ^ 1024 := by
      have hpower : 2 ^ 1024 = 2 ^ 54 * 2 ^ 970 := by rw [← Nat.pow_add]
      rw [hpower] at h ⊢
      rw [Nat.shiftLeft_eq]
      generalize 2 ^ 970 = p at h
      omega
    rw [hexcess]
    exact Nat.lt_of_le_of_lt (roundedMantissa_le hmiddle) (by decide)

theorem isInf_ofScientific {n : Nat} (h : n < 2 ^ 1024 - 2 ^ 970) : (Float.ofScientific n false 0).isInf = false := by
  by_cases hexact : n < 2 ^ 53
  · have hfast : (Float.ofScientific n false 0) = n.toUInt64.toFloat * Float.ofBits 0x3FF0000000000000 := by
      rw [Float.ofScientific, dif_pos ⟨hexact, by decide⟩]
      rfl
    have hone : unpack .binary64 (Float.ofBits 0x3FF0000000000000).toModel.toBits.toBitVec =
        .finite .positive (2 ^ 52) (-52) (by decide) := by
      rfl
    have hword : n.toUInt64.toNat < 2 ^ 53 := Nat.lt_of_le_of_lt (Nat.mod_le _ _) hexact
    have hfactor := moderate_unpack_pack (by decide) (by decide) (moderate_ofNat hword)
    have hproduct := moderate_unpack_pack (by decide) (by decide) (moderate_mul_one (by decide) hfactor)
    rw [← hone] at hproduct
    rw [hfast]
    exact hproduct.isInf_eq_false
  · have hslow : Float.ofScientific n false 0 = .ofModel (Float.Model.ofScientific n 0) := by
      rw [Float.ofScientific, dif_neg (fun hsmall => hexact hsmall.1)]
      rfl
    have hne : n ≠ 0 := by omega
    rw [hslow]
    exact (moderate_unpack_pack (by decide) (by decide) (moderate_ofScientific hne h)).isInf_eq_false

theorem length_toDigits_le {n a b : Nat} (h : n < 2 ^ a) (hab : a ≤ 3 * b) (hb : 0 < b) :
    (Nat.toDigits 10 n).length ≤ b := by
  rw [Nat.length_toDigits_le_iff (by decide) hb]
  calc n < 2 ^ a := h
    _ ≤ 2 ^ (3 * b) := Nat.pow_le_pow_right (by decide) hab
    _ = (2 ^ 3) ^ b := Nat.pow_mul ..
    _ ≤ 10 ^ b := Nat.pow_le_pow_left (by decide) b

theorem isInf_nearestDouble {n : Nat} (h : n < 2 ^ 1024 - 2 ^ 970) :
    (Text.DecimalNumber.nearestDouble n 0).isInf = false := by
  rw [Text.DecimalNumber.nearestDouble]
  split
  · decide
  next hne =>
    have hbelow : n < 2 ^ 1024 := Nat.lt_of_lt_of_le h (Nat.sub_le _ _)
    have hdigits : (Nat.toDigits 10 n).length ≤ 400 := length_toDigits_le hbelow (by decide) (by decide)
    rw [if_neg (by omega)]
    exact isInf_ofScientific h

/-- Deciding a whole number by its order of magnitude makes no difference, unless it is beyond all doubles. -/
theorem nearestDouble_eq_ofNat {n : Nat} (h : (Text.DecimalNumber.nearestDouble n 0).isInf = false) :
    Text.DecimalNumber.nearestDouble n 0 = Float.ofNat n := by
  rw [Text.DecimalNumber.nearestDouble] at h ⊢
  split at h
  next hzero =>
    obtain rfl : n = 0 := by omega
    rw [if_pos (.inl rfl)]
    decide +kernel
  next hne =>
    rw [if_neg hne]
    split at h
    · exact absurd h (by decide)
    next hsmall =>
      rw [if_neg hsmall]
      rfl

end LoanCheck.Decimal

namespace LoanCheck

/-- Whole numbers of seconds within the range of doubles become doubles. -/
theorem isSome_doubleOfInt? {i : Int} (h : i.natAbs < 2 ^ 1024 - 2 ^ 970) : (doubleOfInt? i).isSome := by
  rw [doubleOfInt?, Decimal.isInf_nearestDouble h]
  rfl

/-- The double of a whole number is the one next to it. -/
theorem eq_ofInt_of_doubleOfInt? {i : Int} {x : Float} (h : doubleOfInt? i = some x) : x = Float.ofInt i := by
  rw [doubleOfInt?] at h
  split at h
  · cases h
  next hfinite =>
    have hnearest := Decimal.nearestDouble_eq_ofNat (Bool.eq_false_iff.2 hfinite)
    rw [hnearest] at h
    cases i with
    | ofNat n =>
      have hsign : ¬Int.ofNat n < 0 := Int.not_lt.2 (Int.natCast_nonneg n)
      rw [if_neg hsign] at h
      cases h
      rfl
    | negSucc n =>
      rw [if_pos (Int.negSucc_lt_zero n)] at h
      cases h
      rfl

end LoanCheck

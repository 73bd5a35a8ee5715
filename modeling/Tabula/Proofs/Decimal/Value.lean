import Mathlib.Algebra.Order.Field.Power
import Mathlib.Algebra.Order.Field.Rat
import Mathlib.Tactic.Positivity
import Mathlib.Tactic.Linarith
import Mathlib.Tactic.Ring
import Tabula.Decimal.Order

/-!
# The values of numbers

`value` is the rational number that a finite number stands for, as its sign, exponent and fraction
say. The total order on numbers is that of their values, but for one thing: of two numbers with the
same value, a negative one comes before one that is not, which parts the two zeros
(`totalCompare_eq`).

Without the sign, the bits count the values: the next larger number has the next larger bits
(`strictMono_magnitude`). That is what the layout of the bits is made for; the proof has to look at
the places where the exponent changes, and at the first of them, where the gaps stay as they are.
-/

open Float.Model.UnpackedFloat (unpack unpackExponent)

namespace Tabula.Decimal

theorem fractionValues_eq : fractionValues = 4503599627370496 := rfl

theorem exponentValues_eq : exponentValues = 2048 := rfl

/-! ### Magnitudes -/

/-- The rational number that a magnitude is. -/
def Binary.value (b : Binary) : ℚ :=
  b.significand * 2 ^ b.exponent

theorem Binary.value_ofFields_zero (fraction : Nat) :
    (ofFields 0 fraction).value = fraction * 2 ^ (-1074 : Int) := rfl

theorem Binary.value_ofFields {exponentField : Nat} (h : exponentField ≠ 0) (fraction : Nat) :
    (ofFields exponentField fraction).value =
      (fractionValues + fraction) * 2 ^ ((exponentField : Int) - 1075) := by
  rw [ofFields, if_neg h, value, Nat.cast_add]

/-- The magnitude whose exponent field and fraction field make up a number. -/
def magnitude (bits : Nat) : ℚ :=
  (Binary.ofFields (bits / fractionValues) (bits % fractionValues)).value

theorem magnitude_zero : magnitude 0 = 0 := by
  rw [magnitude, Nat.zero_div, Nat.zero_mod, Binary.value_ofFields_zero, Nat.cast_zero, zero_mul]

/-- Within an exponent, the magnitude grows with the fraction. -/
theorem Binary.value_ofFields_lt_succ (exponentField fraction : Nat) :
    (ofFields exponentField fraction).value < (ofFields exponentField (fraction + 1)).value := by
  have hlt : (fraction : ℚ) < (fraction + 1 : Nat) := Nat.cast_lt.2 fraction.lt_succ_self
  by_cases h : exponentField = 0
  · -- no leading bit: the fraction counts the least gaps
    subst h
    rw [value_ofFields_zero, value_ofFields_zero]
    have hpos : (0 : ℚ) < 2 ^ (-1074 : Int) := by positivity
    exact mul_lt_mul_of_pos_right hlt hpos
  · -- the leading bit is the same on both sides
    rw [value_ofFields h, value_ofFields h]
    have hpos : (0 : ℚ) < 2 ^ ((exponentField : Int) - 1075) := by positivity
    exact mul_lt_mul_of_pos_right (add_lt_add_right hlt _) hpos

/-- The last fraction of an exponent is below the first of the next exponent. -/
theorem Binary.value_ofFields_lt_next {exponentField fraction : Nat}
    (h : fraction < fractionValues) :
    (ofFields exponentField fraction).value < (ofFields (exponentField + 1) 0).value := by
  have hlt : (fraction : ℚ) < fractionValues := Nat.cast_lt.2 h
  rw [value_ofFields (Nat.succ_ne_zero exponentField)]
  by_cases hzero : exponentField = 0
  · -- the gaps are the same on both sides
    subst hzero
    have hpos : (0 : ℚ) < 2 ^ (-1074 : Int) := by positivity
    calc (ofFields 0 fraction).value
        = fraction * 2 ^ (-1074 : Int) := value_ofFields_zero fraction
      _ < fractionValues * 2 ^ (-1074 : Int) := by gcongr
      _ = (fractionValues + (0 : Nat)) * 2 ^ (((0 + 1 : Nat) : Int) - 1075) := by norm_num
  · -- the gaps grow twofold
    have hpos : (0 : ℚ) < 2 ^ ((exponentField : Int) - 1075) := by positivity
    calc (ofFields exponentField fraction).value
        = (fractionValues + fraction) * 2 ^ ((exponentField : Int) - 1075) :=
          value_ofFields hzero fraction
      _ < (fractionValues + fractionValues) * 2 ^ ((exponentField : Int) - 1075) := by gcongr
      _ = (fractionValues + (0 : Nat)) * (2 ^ ((exponentField : Int) - 1075) * 2) := by
          push_cast
          ring
      _ = (fractionValues + (0 : Nat)) * 2 ^ (((exponentField + 1 : Nat) : Int) - 1075) := by
          rw [← zpow_add_one₀ two_ne_zero]
          push_cast
          ring_nf

/-- The bits of magnitudes count them. -/
theorem strictMono_magnitude : StrictMono magnitude := by
  apply strictMono_nat_of_lt_succ
  intro bits
  have hmod : bits % fractionValues < fractionValues := Nat.mod_lt _ (Nat.two_pow_pos 52)
  have hF := fractionValues_eq
  by_cases hlast : bits % fractionValues + 1 = fractionValues
  · -- the fraction is full, so the carry goes into the exponent
    have hdiv' : (bits + 1) / fractionValues = bits / fractionValues + 1 := by
      rw [hF] at hlast ⊢
      omega
    have hmod' : (bits + 1) % fractionValues = 0 := by
      rw [hF] at hlast ⊢
      omega
    rw [magnitude, magnitude, hdiv', hmod']
    exact Binary.value_ofFields_lt_next hmod
  · -- there is no carry
    have hdiv' : (bits + 1) / fractionValues = bits / fractionValues := by
      rw [hF] at hlast ⊢
      omega
    have hmod' : (bits + 1) % fractionValues = bits % fractionValues + 1 := by
      rw [hF] at hlast ⊢
      omega
    rw [magnitude, magnitude, hdiv', hmod']
    exact Binary.value_ofFields_lt_succ _ _

/-! ### Signed values -/

/-- The rational number that a decoded number is, zero where it is not finite. -/
def Decoded.value : Decoded → ℚ
  | .finite negative magnitude => if negative then -magnitude.value else magnitude.value
  | _ => 0

/-- The rational number that a finite number is. -/
def value (x : Float) : ℚ :=
  (decode x).value

/-- Whether the sign bit of a number is set. -/
def isNegative (x : Float) : Bool :=
  signWeight ≤ x.toBits.toNat

/-- The bits of a number without the sign bit. -/
def unsignedBits (x : Float) : Nat :=
  x.toBits.toNat % signWeight

/-- The exponent of a finite number is not the one kept for infinities. -/
theorem exponentField_of_isFinite {x : Float} (hx : x.isFinite = true) :
    x.toBits.toNat / fractionValues % exponentValues + 1 ≠ exponentValues := by
  intro h
  rw [fractionValues_eq, exponentValues_eq] at h
  have hones : @unpackExponent .binary64 x.toModel.toBits.toBitVec = -1#11 := by
    apply BitVec.eq_of_toNat_eq
    have hbits : x.toModel.toBits.toBitVec.toNat = x.toBits.toNat := rfl
    simp only [unpackExponent, BitVec.toNat_cast, BitVec.extractLsb_toNat,
      Nat.shiftRight_eq_div_pow, hbits]
    show x.toBits.toNat / 4503599627370496 % 2048 = 2047
    omega
  -- what has that exponent is read as an infinity or as no number
  unfold Float.isFinite Float.Model.isFinite Float.Model.unpack unpack at hx
  dsimp only at hx
  rw [if_pos hones] at hx
  split at hx
  · exact absurd hx Bool.false_ne_true
  · exact absurd hx Bool.false_ne_true

theorem value_eq {x : Float} (hx : x.isFinite = true) :
    value x = if isNegative x then -magnitude (unsignedBits x) else magnitude (unsignedBits x) := by
  -- the sign bit stands above both fields
  have hdiv : unsignedBits x / fractionValues =
      x.toBits.toNat / fractionValues % exponentValues := by
    rw [unsignedBits, signWeight_eq, fractionValues_eq, exponentValues_eq]
    omega
  have hmod : unsignedBits x % fractionValues = x.toBits.toNat % fractionValues := by
    rw [unsignedBits, signWeight_eq, fractionValues_eq]
    omega
  rw [value, decode, if_neg (exponentField_of_isFinite hx), magnitude, hdiv, hmod]
  rfl

theorem orderKey_eq (x : Float) :
    orderKey x = if isNegative x then -1 - (unsignedBits x : Int) else unsignedBits x := by
  have hlt := x.toBits.toNat_lt
  unfold orderKey isNegative unsignedBits
  rw [signWeight_eq]
  by_cases h : 9223372036854775808 ≤ x.toBits.toNat
  · rw [if_neg (by omega), if_pos (decide_eq_true h)]
    omega
  · rw [if_pos (by omega), if_neg (by simpa using h)]
    omega

/-! ### The order of values -/

theorem magnitude_nonneg (bits : Nat) : 0 ≤ magnitude bits := by
  rw [← magnitude_zero]
  exact strictMono_magnitude.monotone bits.zero_le

theorem compare_magnitude (m n : Nat) : compare (magnitude m) (magnitude n) = compare m n := by
  rw [← cmp_eq_compare, strictMono_magnitude.cmp_map_eq, cmp_eq_compare]

variable {x y : Float}

/-- **The total order on numbers.** Numbers are ordered by their values, and where these are equal, a
negative number comes before one that is not. -/
theorem totalCompare_eq (hx : x.isFinite = true) (hy : y.isFinite = true) :
    totalCompare x y =
      (compare (value x) (value y)).then (compare (isNegative y) (isNegative x)) := by
  rw [totalCompare, orderKey_eq, orderKey_eq, value_eq hx, value_eq hy]
  have hxpos := magnitude_nonneg (unsignedBits x)
  have hypos := magnitude_nonneg (unsignedBits y)
  cases isNegative x <;> cases isNegative y <;> simp only [if_true, if_false, Bool.false_eq_true]
  · -- neither is negative: the greater bits, the greater value
    rw [compare_magnitude, ← cmp_eq_compare, Nat.strictMono_cast.cmp_map_eq, cmp_eq_compare]
    exact Ordering.then_eq.symm
  · -- `y` is negative, so `x` comes behind it, be it of the same value
    rw [compare_gt_iff_gt.2 (by omega)]
    have hle : -magnitude (unsignedBits y) ≤ magnitude (unsignedBits x) := by linarith
    rcases hle.lt_or_eq with hlt | heq
    · rw [compare_gt_iff_gt.2 hlt]
      rfl
    · rw [compare_eq_iff_eq.2 heq.symm]
      rfl
  · -- `x` is negative, so it comes first
    rw [compare_lt_iff_lt.2 (by omega)]
    have hle : -magnitude (unsignedBits x) ≤ magnitude (unsignedBits y) := by linarith
    rcases hle.lt_or_eq with hlt | heq
    · rw [compare_lt_iff_lt.2 hlt]
      rfl
    · rw [compare_eq_iff_eq.2 heq]
      rfl
  · -- both are negative: the greater bits, the lesser value
    have hkeys : StrictAnti fun n : Nat => -1 - (n : Int) := by
      intro m n hmn
      show -1 - (n : Int) < -1 - (m : Int)
      omega
    have hvalues : StrictAnti fun n : Nat => -magnitude n := strictMono_magnitude.neg
    have hkey := hkeys.cmp_map_eq (unsignedBits x) (unsignedBits y)
    have hvalue := hvalues.cmp_map_eq (unsignedBits x) (unsignedBits y)
    rw [cmp_eq_compare] at hkey hvalue
    rw [hkey, hvalue]
    exact Ordering.then_eq.symm

/-- Two numbers that are not a zero and a negative zero. -/
def ZerosAgree (x y : Float) : Prop :=
  value x = 0 → value y = 0 → isNegative x = isNegative y

/-- Numbers of one value have one sign, but for the zeros. -/
theorem isNegative_eq_of_value_eq (hx : x.isFinite = true) (hy : y.isFinite = true)
    (h : value x = value y) (hzeros : ZerosAgree x y) : isNegative x = isNegative y := by
  by_cases hzero : value x = 0
  · exact hzeros hzero (h.symm.trans hzero)
  · have hxpos := magnitude_nonneg (unsignedBits x)
    have hypos := magnitude_nonneg (unsignedBits y)
    rw [value_eq hx] at h hzero
    rw [value_eq hy] at h
    cases hnx : isNegative x <;> cases hny : isNegative y <;>
      simp only [hnx, hny, if_true, if_false, Bool.false_eq_true] at h hzero ⊢
    -- of different signs, both are zero
    · exact absurd (by linarith) hzero
    · exact absurd (by linarith) hzero

/-- The total order is that of the values, unless the numbers are the two zeros. -/
theorem totalCompare_eq_iff (hx : x.isFinite = true) (hy : y.isFinite = true) :
    totalCompare x y = compare (value x) (value y) ↔ ZerosAgree x y := by
  rw [totalCompare_eq hx hy]
  constructor
  · -- between zeros only the signs are left to decide
    intro h hxzero hyzero
    rw [hxzero, hyzero, compare_eq_iff_eq.2 rfl, Ordering.eq_then, compare_eq_iff_eq] at h
    exact h.symm
  · intro hzeros
    by_cases h : value x = value y
    · rw [isNegative_eq_of_value_eq hx hy h hzeros, compare_eq_iff_eq.2 h, compare_eq_iff_eq.2 rfl]
      rfl
    · -- the values decide, so the signs do not matter
      cases hc : compare (value x) (value y) with
      | lt => rfl
      | eq => exact absurd (compare_eq_iff_eq.1 hc) h
      | gt => rfl

end Tabula.Decimal

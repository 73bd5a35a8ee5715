import Tabula.Decimal.Binary

/-!
# A total order on numbers

`orderKey` ranks floating-point numbers by sign and magnitude, so that every two of them compare:
negative zero comes before zero. Numbers of one key have the same bits (`toBits_eq_of_orderKey_eq`).
-/

namespace Tabula.Decimal

/-- The rank of a number in the total order. -/
def orderKey (x : Float) : Int :=
  let bits := x.toBits.toNat
  if bits < signWeight then bits else signWeight - 1 - (bits : Int)

/-- The total order on numbers. -/
def totalCompare (x y : Float) : Ordering :=
  compare (orderKey x) (orderKey y)

/-- The rank tells the bits of a number. -/
theorem toBits_eq_of_orderKey_eq {x y : Float} (h : orderKey x = orderKey y) :
    x.toBits = y.toBits := by
  have hx := x.toBits.toNat_lt
  have hy := y.toBits.toNat_lt
  have hs := signWeight_eq
  simp only [orderKey] at h
  apply UInt64.toNat_inj.1
  by_cases h₁ : x.toBits.toNat < signWeight <;> by_cases h₂ : y.toBits.toNat < signWeight <;>
    simp only [h₁, h₂, if_true, if_false] at h <;> omega

end Tabula.Decimal

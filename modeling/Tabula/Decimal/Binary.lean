/-!
# Binary values, decoded

`Binary` is a finite value without its sign, `significand * 2 ^ exponent`, as the bits of a
floating-point number give it. `Decoded` adds what the bits say besides: the sign, and whether the
number is finite at all.
-/

namespace Tabula.Decimal

/-- A finite magnitude, `significand * 2 ^ exponent`. -/
structure Binary where
  /-- The significand, below `2 ^ 53`. -/
  significand : Nat
  /-- The power of two. -/
  exponent : Int
  /-- Whether the gap to the value below is half the gap to the value above. -/
  narrowBelow : Bool
deriving DecidableEq, Repr

/-- What the bits of a number say. -/
inductive Decoded where
  /-- Not a number. -/
  | notNumber
  /-- An infinity, with whether it is negative. -/
  | infinite (negative : Bool)
  /-- A finite number, with whether its sign bit is set. -/
  | finite (negative : Bool) (magnitude : Binary)
deriving DecidableEq, Repr

/-- The number of values of the fraction field, which is also the least significand of full
length. -/
def fractionValues : Nat := Nat.pow 2 52

/-- The number of values of the exponent field. -/
def exponentValues : Nat := Nat.pow 2 11

/-- The weight of the sign bit. -/
def signWeight : Nat := Nat.pow 2 63

theorem signWeight_eq : signWeight = 9223372036854775808 := rfl

/-- The magnitude with the given exponent field and fraction field. -/
def Binary.ofFields (exponentField fraction : Nat) : Binary :=
  if exponentField = 0 then ⟨fraction, -1074, false⟩
  else ⟨fractionValues + fraction, (exponentField : Int) - 1075, fraction == 0 && exponentField > 1⟩

/-- The fields of a number. -/
def decode (x : Float) : Decoded :=
  let bits := x.toBits.toNat
  let negative := signWeight ≤ bits
  let exponentField := bits / fractionValues % exponentValues
  let fraction := bits % fractionValues
  if exponentField + 1 = exponentValues then
    if fraction = 0 then .infinite negative else .notNumber
  else .finite negative (.ofFields exponentField fraction)

/-- The magnitude as a quotient of natural numbers. -/
def Binary.quotient (b : Binary) : Nat × Nat :=
  (b.significand * Nat.pow 2 b.exponent.toNat, Nat.pow 2 (-b.exponent).toNat)

/-- The magnitude as a whole number, if it is one. -/
def Binary.whole? (b : Binary) : Option Nat :=
  let (num, den) := b.quotient
  if num % den = 0 then some (num / den) else none

end Tabula.Decimal

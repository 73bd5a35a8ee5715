import Tabula.Decimal.Shortest

/-!
# Numbers written out

A number is written with the fewest digits that identify it, never with an exponent: zeros fill the
place up to the decimal point on either side, and a whole number has no point. Of two equally near
digits the greater is written. The sign of zero shows.
-/

namespace Tabula.Decimal

/-- The decimal digits of a whole number. -/
def digitsOf (n : Nat) : List Char :=
  Nat.toDigits 10 n

/-- A decimal written out without an exponent. -/
def Scaled.plain (d : Scaled) : List Char :=
  let digits := digitsOf d.digits
  if 0 ≤ d.exponent then
    if d.digits = 0 then digits else digits ++ List.replicate d.exponent.toNat '0'
  else
    let places := (-d.exponent).toNat
    if places < digits.length then
      digits.take (digits.length - places) ++ '.' :: digits.drop (digits.length - places)
    else '0' :: '.' :: (List.replicate (places - digits.length) '0' ++ digits)

/-- A text behind a minus sign if the number is negative. -/
def signed (negative : Bool) (s : List Char) : List Char :=
  if negative then '-' :: s else s

/-- A number written out. -/
def plain (x : Float) : List Char :=
  match decode x with
  | .notNumber => "NaN".toList
  | .infinite negative => signed negative "inf".toList
  | .finite negative magnitude => signed negative (shortest .upward magnitude).plain

example : plain 0.1 = "0.1".toList := by decide +kernel

example : plain 1e21 = "1000000000000000000000".toList := by decide +kernel

example : plain 1438096285768600.25 = "1438096285768600.3".toList := by decide +kernel

example : plain (-1.5e-7) = "-0.00000015".toList := by decide +kernel

end Tabula.Decimal

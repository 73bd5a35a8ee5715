import Tabula.Decimal.Shortest
import Tabula.Text.Ascii

/-!
# Numbers read from a text

A numeral is an optional sign, then either the word for infinity or for no number, in any case, or
digits with an optional point and an optional exponent. At least one digit stands beside the point.
`Unsigned.value` is the nearest floating-point number, infinite when the numeral is too large.
-/

namespace Tabula.Decimal

/-- The digits at the start of a text. -/
def leadingDigits (s : List Char) : List Char :=
  s.takeWhile Char.isDigit

/-- What follows the digits at the start of a text. -/
def afterDigits (s : List Char) : List Char :=
  s.dropWhile Char.isDigit

/-- The value of a decimal digit. -/
def digitValue (c : Char) : Nat :=
  c.toNat - '0'.toNat

/-- The whole number that digits write. -/
def valueOf (digits : List Char) : Nat :=
  digits.foldl (fun n c => 10 * n + digitValue c) 0

/-- What a numeral says, the sign apart. -/
inductive Unsigned where
  /-- No number. -/
  | notNumber
  /-- Infinity. -/
  | infinite
  /-- A decimal number. -/
  | decimal (d : Scaled)
deriving DecidableEq, Repr

/-- The sign of a numeral, and what follows it. -/
def splitSign : List Char → Bool × List Char
  | '-' :: s => (true, s)
  | '+' :: s => (false, s)
  | s => (false, s)

/-- The exponent that makes up a text: nothing, or a marker, an optional sign and digits. -/
def exponent? : List Char → Option Int
  | [] => some 0
  | c :: s =>
    if c = 'e' || c = 'E' then
      let (negative, digits) := splitSign s
      if digits ≠ [] && digits.all Char.isDigit then
        let n : Int := valueOf digits
        some (if negative then -n else n)
      else none
    else none

/-- The fraction behind the whole digits: nothing, or a point and any digits. -/
def splitFraction : List Char → List Char × List Char
  | '.' :: s => (leadingDigits s, afterDigits s)
  | s => ([], s)

/-- The decimal number that makes up a text. -/
def scaled? (s : List Char) : Option Scaled := do
  let whole := leadingDigits s
  let (fraction, rest) := splitFraction (afterDigits s)
  if whole = [] ∧ fraction = [] then none
  else
    let e ← exponent? rest
    some ⟨valueOf (whole ++ fraction), e - fraction.length⟩

/-- The unsigned numeral that makes up a text. -/
def unsigned? (s : List Char) : Option Unsigned :=
  let word := Text.asciiLower s
  if word = "nan".toList then some .notNumber
  else if word = "inf".toList ∨ word = "infinity".toList then some .infinite
  else (scaled? s).map .decimal

/-- The nearest floating-point number to a decimal. Beyond the reach of the type the answer is
known without the digits. -/
def Scaled.nearest (d : Scaled) : Float :=
  let size := d.exponent + digitCount d.digits
  if d.digits = 0 then 0.0
  else if 310 < size then 1.0 / 0.0
  else if size < -330 then 0.0
  else Float.ofScientific d.digits (d.exponent < 0) d.exponent.natAbs

/-- The number that an unsigned numeral stands for. -/
def Unsigned.value : Unsigned → Float
  | .notNumber => 0.0 / 0.0
  | .infinite => 1.0 / 0.0
  | .decimal d => d.nearest

/-- The number that makes up a text. -/
def read? (s : List Char) : Option Float :=
  let (negative, rest) := splitSign s
  (unsigned? rest).map fun u => if negative then -u.value else u.value

/-- The finite number that makes up a text. -/
def readFinite? (s : List Char) : Option Float :=
  (read? s).filter Float.isFinite

example : (read? "-.5e1".toList).map Float.toBits = some (-5.0 : Float).toBits := by decide +kernel

example : (read? ".".toList).isNone = true := by decide +kernel

end Tabula.Decimal

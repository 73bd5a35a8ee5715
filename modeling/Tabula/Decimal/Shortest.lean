import Tabula.Decimal.Binary

/-!
# The fewest digits that read back

The reals that round to a binary value form an interval around it: from halfway to the value below
to halfway to the value above, ends included exactly when the significand is even. `shortest`
returns the decimal with the fewest digits inside that interval, and of several the nearest. Which
of two equally near ones it returns is a choice of the format, `Tie`.

A decimal with few digits lies on a coarse grid of powers of ten, so the search looks at the two
neighbours of the value on one grid after the other, the coarsest first.
-/

namespace Tabula.Decimal

/-- A decimal number, `digits * 10 ^ exponent`. -/
structure Scaled where
  /-- The digits, read as a whole number. -/
  digits : Nat
  /-- The power of ten. -/
  exponent : Int
deriving DecidableEq, Repr

/-- Comparison of `a * 10 ^ i` with `n * 2 ^ j`. -/
def compareScaled (a : Nat) (i : Int) (n : Nat) (j : Int) : Ordering :=
  compare (a * Nat.pow 10 i.toNat * Nat.pow 2 (-j).toNat)
    (n * Nat.pow 2 j.toNat * Nat.pow 10 (-i).toNat)

/-- Whether a decimal lies among the reals that round to the value. -/
def Binary.readsBack (b : Binary) (d : Scaled) : Bool :=
  let lower := if b.narrowBelow then 4 * b.significand - 1 else 4 * b.significand - 2
  let upper := 4 * b.significand + 2
  let closed := b.significand % 2 == 0
  let low := compareScaled d.digits d.exponent lower (b.exponent - 2)
  let high := compareScaled d.digits d.exponent upper (b.exponent - 2)
  (low == .gt || closed && low == .eq) && (high == .lt || closed && high == .eq)

/-- The value divided by `10 ^ k`, rounded down. -/
def Binary.floorAt (b : Binary) (k : Int) : Nat :=
  let (num, den) := b.quotient
  num * Nat.pow 10 (-k).toNat / (den * Nat.pow 10 k.toNat)

/-- Twice the value compared with `a * 10 ^ k`. -/
def Binary.compareTwice (b : Binary) (a : Nat) (k : Int) : Ordering :=
  (compareScaled a k b.significand (b.exponent + 1)).swap

/-- Which of two equally near decimals is taken. -/
inductive Tie where
  /-- The greater one. -/
  | upward
  /-- The one whose last digit is even. -/
  | toEven
deriving DecidableEq, Repr

/-- The one of two neighbours on the grid of `10 ^ k` that is nearer to the value. -/
def Binary.nearer (b : Binary) (tie : Tie) (below above : Scaled) (k : Int) : Scaled :=
  match b.compareTwice (2 * below.digits + 1) k with
  | .lt => below
  | .gt => above
  | .eq =>
    match tie with
    | .upward => above
    | .toEven => if below.digits % 2 = 0 then below else above

/-- The decimal on the grid of `10 ^ k` that reads back, if there is one: the nearer of the two
neighbours of the value, if both do. -/
def Binary.onGrid? (b : Binary) (tie : Tie) (k : Int) : Option Scaled :=
  let below : Scaled := ⟨b.floorAt k, k⟩
  let above : Scaled := ⟨b.floorAt k + 1, k⟩
  match b.readsBack below, b.readsBack above with
  | true, true => some (b.nearer tie below above k)
  | true, false => some below
  | false, true => some above
  | false, false => none

/-- The number of decimal digits of a whole number, zero for zero. -/
def digitCount (n : Nat) : Nat :=
  if n = 0 then 0 else (Nat.toDigits 10 n).length

/-- The least `k` such that the value is below `10 ^ k`. -/
def Binary.scale (b : Binary) : Int :=
  let (num, den) := b.quotient
  if den ≤ num then digitCount (num / den)
  else
    -- below one: `num / den < 10 ^ k` first fails for `k` one below
    let zeros := digitCount (den / num) - 1
    if num * Nat.pow 10 zeros < den then -(zeros : Int) else 1 - (zeros : Int)

/-- The decimal without trailing zeros in its digits. -/
def Scaled.stripped (d : Scaled) : Scaled :=
  go d.digits d.exponent d.digits
where
  /-- Moves tens from the digits into the exponent, at most `fuel` times. -/
  go (digits : Nat) (exponent : Int) : Nat → Scaled
    | 0 => ⟨digits, exponent⟩
    | fuel + 1 =>
      if digits % 10 = 0 then go (digits / 10) (exponent + 1) fuel else ⟨digits, exponent⟩

/-- The most digits that the search tries. -/
def digitLimit : Nat := 17

/-- The value with all its digits: a power of two below one is a power of five over a power of
ten. -/
def Binary.exact (b : Binary) : Scaled :=
  if 0 ≤ b.exponent then ⟨b.significand * Nat.pow 2 b.exponent.toNat, 0⟩
  else ⟨b.significand * Nat.pow 5 (-b.exponent).toNat, b.exponent⟩

/-- The decimal with the fewest digits that reads back, and of those the nearest. -/
def shortest (tie : Tie) (b : Binary) : Scaled :=
  if b.significand = 0 then ⟨0, 0⟩
  else
    let scale := b.scale
    match (List.range digitLimit).findSome? fun (n : Nat) => b.onGrid? tie (scale - (n + 1)) with
    | some d => d.stripped
    | none => b.exact.stripped

end Tabula.Decimal

import Tabula.Decimal.Reader

/-!
# Words, numbers and strings of JSON

Readers over a list of characters. Each takes what it reads off the front of the text and returns
the rest, or a `Fault`: the text ends too early, is not JSON, or is JSON of another shape than the
one that was asked for. A reader reports the first fault that it meets from left to right.
-/

namespace Tabula.Json

open Tabula.Decimal (Scaled leadingDigits afterDigits valueOf digitValue)

/-- Why a text could not be read. -/
inductive Fault where
  /-- The text is not JSON. -/
  | malformed
  /-- The text holds another kind of value than was asked for. -/
  | mismatch
  /-- The text ends too early. -/
  | unfinished
deriving DecidableEq, Repr

/-- Reads a value off the front of a text. -/
abbrev Reader (α : Type) := List Char → Except Fault (α × List Char)

/-- Whether a character may stand between values. -/
def isGap (c : Char) : Bool :=
  c = ' ' || c = '\n' || c = '\t' || c = '\r'

/-- The text without the gap at its start. -/
def skipGap (s : List Char) : List Char :=
  s.dropWhile isGap

/-- Reads the given letters. -/
def word : List Char → List Char → Except Fault (List Char)
  | [], s => .ok s
  | _ :: _, [] => .error .unfinished
  | c :: letters, d :: s => if c = d then word letters s else .error .malformed

/-! ### Strings -/

/-- The value of a hexadecimal digit. -/
def hexValue? (c : Char) : Option Nat :=
  if c.isDigit then some (digitValue c)
  else if 'a' ≤ c ∧ c ≤ 'f' then some (c.toNat - 'a'.toNat + 10)
  else if 'A' ≤ c ∧ c ≤ 'F' then some (c.toNat - 'A'.toNat + 10)
  else none

/-- The number of bytes of a text. -/
def byteCount (s : List Char) : Nat :=
  s.foldl (fun n c => n + c.utf8Size) 0

/-- The number that four hexadecimal digits at the start of a text write. -/
def hexCode (s : List Char) : Except Fault Nat :=
  let digits := s.take 4
  if byteCount digits < 4 then .error .unfinished
  else
    match digits.mapM hexValue? with
    | some [a, b, c, d] => .ok (((a * 16 + b) * 16 + c) * 16 + d)
    | _ => .error .malformed

/-- The first code of the upper half of a character that takes two codes. -/
def highStart : Nat := 0xD800

/-- The first code of the lower half of a character that takes two codes. -/
def lowStart : Nat := 0xDC00

/-- The first code past the lower halves. -/
def halvesEnd : Nat := 0xE000

/-- The character that codes at the start of a text name, and the number of characters that they
take. A character beyond the first plane is written as two codes, and neither stands alone. -/
def codedChar (s : List Char) : Except Fault (Char × Nat) := do
  let code ← hexCode s
  if code < highStart ∨ halvesEnd ≤ code then return (Char.ofNat code, 4)
  else if lowStart ≤ code then .error .malformed
  else
    match s.drop 4 with
    | [] | ['\\'] => .error .unfinished
    | '\\' :: 'u' :: t =>
      let low ← hexCode t
      if lowStart ≤ low ∧ low < halvesEnd then
        return (Char.ofNat ((code - highStart) * 0x400 + (low - lowStart) + 0x10000), 10)
      else .error .malformed
    | _ => .error .malformed

/-- The letters of the short escapes, with what they stand for. -/
def shortEscapes : List (Char × Char) :=
  [('"', '"'), ('\\', '\\'), ('/', '/'), ('b', '\x08'), ('f', '\x0c'), ('n', '\n'), ('r', '\r'),
   ('t', '\t')]

/-- The character that an escape names, after its backslash, and the number of characters that it
takes. With `exact` unset a code of four digits need not name a character. -/
def escape (exact : Bool) : List Char → Except Fault (Char × Nat)
  | [] => .error .unfinished
  | 'u' :: s => do
    if exact then
      let (c, n) ← codedChar s
      return (c, n + 1)
    else
      let _ ← hexCode s
      return ('\x00', 5)
  | c :: _ =>
    match shortEscapes.lookup c with
    | some d => .ok (d, 1)
    | none => .error .malformed

/-- The greatest code point that may not stand in a string. -/
def lastControl : Nat := 0x1F

/-- Reads a string after its opening quote. -/
def stringBody (exact : Bool) (s : List Char) : Except Fault (List Char × List Char) :=
  match s with
  | [] => .error .unfinished
  | c :: rest =>
    if c = '"' then .ok ([], rest)
    else if c = '\\' then
      match escape exact rest with
      | .error fault => .error fault
      | .ok (d, taken) =>
        match stringBody exact (rest.drop taken) with
        | .error fault => .error fault
        | .ok (text, after) => .ok (d :: text, after)
    else if c.toNat ≤ lastControl then .error .malformed
    else
      match stringBody exact rest with
      | .error fault => .error fault
      | .ok (text, after) => .ok (c :: text, after)
termination_by s.length
decreasing_by
  · simp only [List.length_drop, List.length_cons]; omega
  · simp

/-! ### Numbers -/

/-- A number as it is written. -/
inductive Number where
  /-- A whole number from zero. -/
  | natural (n : Nat)
  /-- The opposite of a whole number from one. -/
  | negative (n : Nat)
  /-- Any other number. -/
  | real (x : Float)
deriving DecidableEq, Repr

/-- The first whole number that no word of 64 bits holds. -/
def wordBound : Nat := Nat.pow 2 64

/-- Digits gathered into a significand of at most 64 bits. Digits that no longer fit are counted in
the exponent or dropped, according to the side of the point on which they stand. -/
structure Gathered where
  /-- The digits that fit. -/
  significand : Nat := 0
  /-- The power of ten. -/
  exponent : Int := 0
  /-- Whether a digit did not fit. -/
  full : Bool := false
deriving DecidableEq, Repr

/-- Takes in a digit before the point. -/
def Gathered.whole (g : Gathered) (c : Char) : Gathered :=
  let next := g.significand * 10 + digitValue c
  if g.full ∨ wordBound ≤ next then { g with exponent := g.exponent + 1, full := true }
  else { g with significand := next }

/-- Takes in a digit after the point. -/
def Gathered.fraction (g : Gathered) (c : Char) : Gathered :=
  let next := g.significand * 10 + digitValue c
  if g.full ∨ wordBound ≤ next then { g with full := true }
  else { g with significand := next, exponent := g.exponent - 1 }

/-- The greatest power of ten by which a significand is multiplied or divided in one step. -/
def greatestPower : Nat := 308

/-- A power of ten. -/
def powerOfTen (n : Nat) : Float :=
  Float.ofScientific 1 false n

/-- A number divided by `10 ^ n`, in steps of the greatest power. -/
def dividedByPower (x : Float) (n : Nat) : Float :=
  if n ≤ greatestPower then x / powerOfTen n
  else if x == 0.0 then x
  else dividedByPower (x / powerOfTen greatestPower) (n - greatestPower)
termination_by n
decreasing_by simp only [greatestPower] at *; omega

/-- The number that a significand and a power of ten make: one rounding for the significand and one
for each step by a power of ten. A number beyond the range of the type is malformed. -/
def Gathered.value (g : Gathered) : Except Fault Float :=
  let x := g.significand.toUInt64.toFloat
  if g.exponent < 0 then .ok (dividedByPower x g.exponent.natAbs)
  else if g.exponent ≤ greatestPower then
    let y := x * powerOfTen g.exponent.natAbs
    if y.isInf then .error .malformed else .ok y
  else if g.significand = 0 then .ok x
  else .error .malformed

/-- The greatest exponent that is read as a number. -/
def lastExponent : Nat := Nat.pow 2 31 - 1

/-- Reads an exponent after its marker and applies it. -/
def withExponent (g : Gathered) (s : List Char) : Except Fault (Float × List Char) := do
  let (negative, digits) :=
    match s with
    | '+' :: t => (false, t)
    | '-' :: t => (true, t)
    | t => (false, t)
  match digits with
  | [] => .error .unfinished
  | c :: _ =>
    if !c.isDigit then .error .malformed
    else
      let n := valueOf (leadingDigits digits)
      let rest := afterDigits digits
      if lastExponent < n then
        if g.significand ≠ 0 ∧ !negative then .error .malformed else return (0.0, rest)
      else
        let e : Int := if negative then -n else n
        let x ← { g with exponent := g.exponent + e }.value
        return (x, rest)

/-- Reads what follows the digits before the point, when that makes the number no whole one. -/
def real? (g : Gathered) (s : List Char) : Option (Except Fault (Float × List Char)) :=
  match s with
  | '.' :: t =>
    let digits := leadingDigits t
    if digits = [] then some (.error (if t = [] then .unfinished else .malformed))
    else
      let g := digits.foldl Gathered.fraction { g with full := false }
      match afterDigits t with
      | 'e' :: u | 'E' :: u => some (withExponent g u)
      | u => some (g.value.map fun x => (x, u))
  | 'e' :: t | 'E' :: t => some (withExponent g t)
  | _ => if g.full then some (g.value.map fun x => (x, s)) else none

/-- The whole number with a sign that a significand makes, where the type has it. -/
def wholeNumber (negative : Bool) (n : Nat) : Number :=
  if !negative then .natural n
  else if n = 0 ∨ Nat.pow 2 63 < n then .real (-n.toUInt64.toFloat)
  else .negative n

/-- Reads a number after its sign. -/
def unsignedNumber (negative : Bool) (s : List Char) : Except Fault (Number × List Char) :=
  let digits := leadingDigits s
  match digits with
  | [] => .error (if s = [] then .unfinished else .malformed)
  | '0' :: _ :: _ => .error .malformed
  | _ =>
    let g := digits.foldl Gathered.whole {}
    let rest := afterDigits s
    match real? g rest with
    | none => .ok (wholeNumber negative g.significand, rest)
    | some result => result.map fun (x, rest) => (.real (if negative then -x else x), rest)

/-- Reads a number. -/
def number : Reader Number
  | '-' :: s => unsignedNumber true s
  | s => unsignedNumber false s

/-! ### Values of another shape -/

/-- What is wrong with the value at the start of a text, when a value of another shape is asked
for. A number, a word or a string that is itself faulty shows its own fault. -/
def unexpected (s : List Char) : Fault :=
  match s with
  | [] => .malformed
  | c :: t =>
    let check (result : Except Fault Unit) : Fault :=
      match result with
      | .ok _ => .mismatch
      | .error fault => fault
    if c = 'n' then check ((word "ull".toList t).map fun _ => ())
    else if c = 't' then check ((word "rue".toList t).map fun _ => ())
    else if c = 'f' then check ((word "alse".toList t).map fun _ => ())
    else if c = '-' || c.isDigit then check ((number s).map fun _ => ())
    else if c = '"' then check ((stringBody true t).map fun _ => ())
    else if c = '[' || c = '\x7b' then .mismatch
    else .malformed

end Tabula.Json

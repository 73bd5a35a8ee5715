import Tabula.Calendar.Pattern

/-!
# Timestamps with an offset

The strict form of a point in time on the wire: four digits of year and two of every other number,
a letter or a space between date and time, an optional fraction, and the distance from universal
time. A timestamp names the universal moment: `Timestamp.read?` takes the offset away.
-/

namespace Tabula.Calendar.Timestamp

open Tabula.Text Tabula.Decimal

/-- A number of exactly `width` digits, and what follows it. -/
def digits? (width : Nat) (s : List Char) : Option (Nat × List Char) :=
  let digits := leadingDigits (s.take width)
  if digits.length = width then some (valueOf digits, s.drop width) else none

/-- What follows the given character. -/
def after? (c : Char) : List Char → Option (List Char)
  | d :: s => if c = d then some s else none
  | [] => none

/-- What follows the mark between date and time. -/
def afterMark? : List Char → Option (List Char)
  | 'T' :: s | 't' :: s | ' ' :: s => some s
  | _ => none

/-- Whether an offset lies before universal time, and what follows its sign. A typographic minus
counts as well. -/
def offsetSign? : List Char → Option (Bool × List Char)
  | '+' :: s => some (false, s)
  | '-' :: s => some (true, s)
  | '−' :: s => some (true, s)
  | _ => none

/-- The offset from universal time that makes up a text, in seconds. -/
def offset? : List Char → Option Int
  | ['Z'] | ['z'] => some 0
  | s => do
    let (negative, s) ← offsetSign? s
    let (hours, s) ← digits? 2 s
    let (minutes, s) ← digits? 2 (← after? ':' s)
    if s = [] ∧ hours < 24 ∧ minutes < 60 then
      let seconds : Int := hours * 3600 + minutes * 60
      return if negative then -seconds else seconds
    else none

/-- The fraction of the second, if a point announces one, and what follows. -/
def fraction? : List Char → Option (Nat × List Char)
  | '.' :: s => nanos? s
  | s => some (0, s)

/-- The universal moment that a timestamp names. -/
def read? (s : List Char) : Option Moment := do
  let (year, s) ← digits? 4 s
  let (month, s) ← digits? 2 (← after? '-' s)
  let (day, s) ← digits? 2 (← after? '-' s)
  let (hour, s) ← digits? 2 (← afterMark? s)
  let (minute, s) ← digits? 2 (← after? ':' s)
  let (second, s) ← digits? 2 (← after? ':' s)
  let (nanos, s) ← fraction? s
  let offset ← offset? s
  let moment ← Numbers.moment? { year, month, day, hour, minute, second, nanos }
  return moment.minusSeconds offset

end Tabula.Calendar.Timestamp

import Tabula.Calendar.Date
import Tabula.Decimal.Reader
import Tabula.Text.Blank

/-!
# Date patterns

A pattern is a list of parts, and `Pattern.read?` matches a whole text against it. The parts are
lenient: a number may have fewer digits than its field and blanks before it, a year may have a sign
and then any number of digits, blanks in the pattern stand for any run of blanks, and digits of a
fraction beyond the nanoseconds are dropped. What was read must be a date and time that exist.
-/

namespace Tabula.Calendar

open Tabula.Text Tabula.Decimal

/-- The numbers that a date text can hold. -/
inductive Field where
  /-- The year. -/
  | year
  /-- The month. -/
  | month
  /-- The day of the month. -/
  | day
  /-- The hour. -/
  | hour
  /-- The minute. -/
  | minute
  /-- The second. -/
  | second
deriving DecidableEq, Repr

/-- The most digits of a field, a signed year apart. -/
def Field.width : Field → Nat
  | .year => 4
  | _ => 2

/-- A piece of a date text. -/
inductive Part where
  /-- A number. -/
  | number (field : Field)
  /-- A character that stands for itself. -/
  | literal (c : Char)
  /-- Any run of blanks. -/
  | blanks
  /-- The first three letters of a month. -/
  | monthName
  /-- A point and a fraction of the second, or nothing. -/
  | fraction
deriving DecidableEq, Repr

/-- The form of a date text. -/
abbrev Pattern := List Part

/-- The numbers read so far; those that a pattern lacks are zero. -/
structure Numbers where
  /-- The year. -/
  year : Int := 0
  /-- The month. -/
  month : Nat := 0
  /-- The day. -/
  day : Nat := 0
  /-- The hour. -/
  hour : Nat := 0
  /-- The minute. -/
  minute : Nat := 0
  /-- The second. -/
  second : Nat := 0
  /-- The nanoseconds. -/
  nanos : Nat := 0
deriving DecidableEq, Repr

/-- The numbers with one of them replaced. -/
def Numbers.set (n : Numbers) (value : Nat) : Field → Numbers
  | .year => { n with year := value }
  | .month => { n with month := value }
  | .day => { n with day := value }
  | .hour => { n with hour := value }
  | .minute => { n with minute := value }
  | .second => { n with second := value }

/-- The moment that the numbers name, if there is one. -/
def Numbers.moment? (n : Numbers) : Option Moment := do
  let date ← Date.ofNumbers? n.year n.month n.day
  let time ← Time.ofNumbers? n.hour n.minute n.second n.nanos
  return ⟨date, time⟩

/-- A number of at most `width` digits and at least one, and what follows it. -/
def number? (width : Nat) (s : List Char) : Option (Nat × List Char) :=
  let digits := leadingDigits (s.take width)
  if digits = [] then none else some (valueOf digits, s.drop digits.length)

/-- A number of any number of digits and at least one, and what follows it. -/
def longNumber? (s : List Char) : Option (Nat × List Char) :=
  let digits := leadingDigits s
  if digits = [] then none else some (valueOf digits, afterDigits s)

/-- A field's number, and what follows it. -/
def Field.read? (field : Field) (n : Numbers) (s : List Char) : Option (Numbers × List Char) :=
  match field, trimStart s with
  | .year, '-' :: t => (longNumber? t).map fun (v, rest) => ({ n with year := -v }, rest)
  | .year, '+' :: t => (longNumber? t).map fun (v, rest) => ({ n with year := v }, rest)
  | field, t => (number? field.width t).map fun (v, rest) => (n.set v field, rest)

/-- The names of the months, three letters each. -/
def monthNames : List String :=
  ["jan", "feb", "mar", "apr", "may", "jun", "jul", "aug", "sep", "oct", "nov", "dec"]

/-- The month that three letters name, in any case. -/
def monthNamed? (letters : List Char) : Option Nat :=
  (monthNames.idxOf? (String.ofList (asciiLower letters))).map (· + 1)

/-- The most digits of a fraction that count. -/
def fractionDigits : Nat := 9

/-- A fraction of the second in nanoseconds, after its point, and what follows it. -/
def nanos? (s : List Char) : Option (Nat × List Char) :=
  let digits := (leadingDigits s).take fractionDigits
  if digits = [] then none
  else some (valueOf digits * Nat.pow 10 (fractionDigits - digits.length), afterDigits s)

/-- Reads one part. -/
def Part.read? (part : Part) (n : Numbers) (s : List Char) : Option (Numbers × List Char) :=
  match part, s with
  | .number field, s => field.read? n s
  | .literal c, d :: s => if c = d then some (n, s) else none
  | .literal _, [] => none
  | .blanks, s => some (n, trimStart s)
  | .monthName, s => (monthNamed? (s.take 3)).map fun m => ({ n with month := m }, s.drop 3)
  | .fraction, '.' :: s => (nanos? s).map fun (v, rest) => ({ n with nanos := v }, rest)
  | .fraction, s => some (n, s)

/-- Reads the parts of a pattern one after the other, up to the end of the text. -/
def Pattern.readFrom? (n : Numbers) (s : List Char) : Pattern → Option Numbers
  | [] => if s = [] then some n else none
  | part :: pattern => do
    let (n, s) ← part.read? n s
    Pattern.readFrom? n s pattern

/-- The moment that a text names under a pattern. -/
def Pattern.read? (pattern : Pattern) (s : List Char) : Option Moment := do
  (← Pattern.readFrom? {} s pattern).moment?

end Tabula.Calendar

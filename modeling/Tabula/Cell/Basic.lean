import Tabula.Calendar.Recognize
import Tabula.Decimal.Plain
import Tabula.Decimal.Reader
import Tabula.Text.Blank

/-!
# Cells

A cell is empty, or holds a truth value, a number or a text. `Cell.display` is the text that a cell
shows. A cell *reads as a number* when it is a finite number or a text that writes one
(`Cell.number?`), and *reads as a date* when it is a text that names a moment (`Cell.moment?`).
-/

namespace Tabula

/-- The value of one column in one row. -/
inductive Cell where
  /-- No value. -/
  | null
  /-- A truth value. -/
  | bool (value : Bool)
  /-- A number. -/
  | number (value : Float)
  /-- A text. -/
  | text (value : String)
deriving DecidableEq, Repr, Inhabited

namespace Cell

/-- Whole numbers below this bound are shown digit by digit, without the sign of zero. -/
def wholeBound : Nat := Nat.pow 10 15

/-- A number as a cell shows it. -/
def numberText (x : Float) : List Char :=
  match Decimal.decode x with
  | .finite negative magnitude =>
    match magnitude.whole? with
    | some n =>
      if n < wholeBound then Decimal.signed (negative && n != 0) (Decimal.digitsOf n)
      else Decimal.plain x
    | none => Decimal.plain x
  | _ => Decimal.plain x

/-- The text that a cell shows. -/
def display : Cell → String
  | null => ""
  | bool value => if value then "true" else "false"
  | number value => String.ofList (numberText value)
  | text value => value

/-- The finite number that a cell reads as. -/
def number? : Cell → Option Float
  | number value => if value.isFinite then some value else none
  | text value => Decimal.readFinite? (Text.trimmed value)
  | _ => none

/-- The moment that a cell reads as; only texts name moments. -/
def moment? : Cell → Option Calendar.Moment
  | text value => Calendar.moment? value
  | _ => none

/-- Whether a cell holds nothing. -/
def isNull : Cell → Bool
  | null => true
  | _ => false

/-- Whether a cell holds nothing, or a text of blanks alone. -/
def isBlank : Cell → Bool
  | null => true
  | text value => (Text.trimmed value).isEmpty
  | _ => false

example : (number (-0.0)).display = "0" := by decide +kernel

example : (number 1e15).display = "1000000000000000" := by decide +kernel

example : (number 2.5).display = "2.5" := by decide +kernel

end Cell

end Tabula

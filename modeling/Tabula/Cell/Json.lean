import Tabula.Dataset
import Tabula.Json.Decoder

/-!
# Cells and rows from JSON

A cell is the empty value, a truth value, a number or a string. An array or an object is read to its
end and then refused, since no cell holds one. A row is an object of cells, whose repeated names
keep the last value.
-/

namespace Tabula

open Json

/-- The number of a cell that JSON writes. -/
def Json.Number.toFloat : Json.Number → Float
  | .natural n => n.toUInt64.toFloat
  | .negative n => -n.toUInt64.toFloat
  | .real x => x

namespace Cell

/-- Reads any value, with the cell that it is, or `none` for an array or object. At most `depth`
arrays and objects may be entered. -/
def anyValue (length : Nat) : Nat → Reader (Option Cell)
  | depth, s => do
    match ← valueStart s with
    | 'n' :: t => return (some .null, ← word "ull".toList t)
    | 't' :: t => return (some (.bool true), ← word "rue".toList t)
    | 'f' :: t => return (some (.bool false), ← word "alse".toList t)
    | '"' :: t =>
      let (chars, rest) ← stringBody true t
      return (some (.text (String.ofList chars)), rest)
    | '[' :: t =>
      match depth with
      | 0 => .error .malformed
      | inner + 1 => return (none, (← elements (anyValue length inner) length t).2)
    | '\x7b' :: t =>
      match depth with
      | 0 => .error .malformed
      | inner + 1 =>
        let (_, rest) ← members (fun _ name => do
          let (_, after) ← stringBody true name
          let (_, after) ← anyValue length inner (← afterColon after)
          return ((), after)) length () t
        return (none, rest)
    | c :: t =>
      if c = '-' || c.isDigit then
        let (n, rest) ← Json.number (c :: t)
        return (some (.number n.toFloat), rest)
      else .error .malformed
    | [] => .error .unfinished

/-- A cell. -/
def decoder : Decoder Cell := fun budget s => do
  match ← anyValue budget.length (budget.depth - 1) s with
  | (some cell, rest) => return (cell, rest)
  | (none, _) => .error .mismatch

end Cell

/-- A row. -/
def Row.decoder : Decoder Row := object Cell.decoder

/-- A list of rows. -/
def Row.listDecoder : Decoder (List Row) := array Row.decoder

end Tabula

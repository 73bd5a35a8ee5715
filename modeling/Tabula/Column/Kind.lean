import Tabula.Json.Decoder

/-!
# Column kinds

A column is numeric, temporal or categorical. Only the first two have an order that is worth sorting
by.
-/

namespace Tabula

/-- What the values of a column are. -/
inductive ColumnKind where
  /-- Numbers. -/
  | numeric
  /-- Dates. -/
  | temporal
  /-- Anything else. -/
  | categorical
deriving DecidableEq, Repr

namespace ColumnKind

/-- Every kind with its name. -/
def names : List (String × ColumnKind) :=
  [("Numeric", numeric), ("Temporal", temporal), ("Categorical", categorical)]

/-- The name of a kind. -/
def name : ColumnKind → String
  | numeric => "Numeric"
  | temporal => "Temporal"
  | categorical => "Categorical"

/-- Whether columns of a kind may be sorted. -/
def hasOrder : ColumnKind → Bool
  | numeric | temporal => true
  | categorical => false

/-- A kind by its name. -/
def decoder : Json.Decoder ColumnKind := Json.choice names

theorem lookup_name (kind : ColumnKind) : names.lookup kind.name = some kind := by
  cases kind <;> decide

end ColumnKind

end Tabula

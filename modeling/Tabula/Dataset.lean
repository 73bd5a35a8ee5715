import Tabula.Cell.Basic
import Tabula.OrderedMap

/-!
# Datasets

A row holds cells under column names. A dataset is a list of rows beside a list of column names; a
row may lack a column, and then has an empty cell there. `Dataset.select` gives a dataset other rows
and keeps its columns.
-/

namespace Tabula

/-- Cells under column names. -/
abbrev Row := OrderedMap Cell

/-- The cell of a column, empty where the row lacks it. -/
def Row.cell (row : Row) (column : String) : Cell :=
  (row.get? column).getD .null

/-- Named columns and a list of rows. -/
structure Dataset where
  /-- The column names, in order. -/
  columns : List String := []
  /-- The rows, in order. -/
  rows : List Row := []
deriving DecidableEq, Repr, Inhabited

namespace Dataset

/-- The dataset of some rows, with the columns of the first. -/
def ofRows (rows : List Row) : Dataset where
  columns := (rows.head?.map OrderedMap.keys).getD []
  rows := rows

/-- The number of rows. -/
def size (d : Dataset) : Nat :=
  d.rows.length

/-- Whether the dataset names a column. -/
def isColumn (d : Dataset) (column : String) : Bool :=
  d.columns.contains column

/-- The cells of a column, from the first row to the last. -/
def column (d : Dataset) (name : String) : List Cell :=
  d.rows.map fun row => Row.cell row name

/-- The same columns with other rows. -/
def select (d : Dataset) (rows : List Row) : Dataset :=
  { d with rows := rows }

@[simp] theorem columns_select (d : Dataset) (rows : List Row) :
    (d.select rows).columns = d.columns := rfl

@[simp] theorem rows_select (d : Dataset) (rows : List Row) : (d.select rows).rows = rows := rfl

@[simp] theorem size_select (d : Dataset) (rows : List Row) :
    (d.select rows).size = rows.length := rfl

end Dataset

end Tabula

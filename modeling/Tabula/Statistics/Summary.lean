import Tabula.Statistics.Column

/-!
# The summary of a table

A summary counts the rows of a table, its columns of each kind and the distinct values of each
column, and holds the statistics of all columns.
-/

namespace Tabula

/-- An overview of a table. -/
structure Summary where
  /-- The number of rows. -/
  totalRecords : Nat
  /-- The distinct values of each column. -/
  uniqueValues : OrderedMap Nat
  /-- The statistics of the columns. -/
  columns : List ColumnStatistics
deriving DecidableEq, Repr

namespace Summary

/-- The number of columns of a kind. -/
def countKind (s : Summary) (kind : ColumnKind) : Nat :=
  s.columns.countP fun c => c.kind = kind

/-- The statistics of a column, if it has any. -/
def column? (s : Summary) (name : String) : Option ColumnStatistics :=
  s.columns.find? fun c => c.column == name

end Summary

/-- The summary of some rows. -/
def Statistician.summary (s : Statistician) (rows : List Row) (profiles : Profiles) : Summary :=
  let columns := s.columns rows profiles none
  { totalRecords := rows.length
    uniqueValues := .ofList (columns.map fun c => (c.column, c.uniqueCount.getD 0))
    columns }

end Tabula

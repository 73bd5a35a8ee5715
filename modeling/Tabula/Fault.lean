import Tabula.Json.Lexeme
import Tabula.Service.Basic

/-!
# Why an operation on data fails

A `DataFault` names the cause. Some causes lie in what was asked for and are known before anything
is read or sent: `DataFault.isMisuse` tells these apart.
-/

namespace Tabula

/-- Why an operation on data failed. -/
inductive DataFault where
  /-- A file could not be read. -/
  | unreadable (detail : String)
  /-- A file holds no settings. -/
  | json (fault : Json.Fault)
  /-- A file holds no table. -/
  | table
  /-- A setting has a value that makes no sense. -/
  | setting (detail : String)
  /-- The dataset has no such column. -/
  | unknownColumn (column : String)
  /-- The column has no order. -/
  | columnWithoutOrder (column : String)
  /-- There is no such page. -/
  | noSuchPage (page totalPages : Nat)
  /-- A page holds at least one row. -/
  | pageSizeZero
  /-- The table service did not answer. -/
  | service (fault : ServiceFault)
deriving DecidableEq, Repr

namespace DataFault

/-- The text of a fault. -/
def message : DataFault → String
  | unreadable detail => "I/O error: " ++ detail
  | json .malformed => "JSON error: not JSON"
  | json .mismatch => "JSON error: unexpected value"
  | json .unfinished => "JSON error: unexpected end"
  | table => "CSV error: a field is not text"
  | setting detail => "Invalid configuration: " ++ detail
  | unknownColumn column => "Unknown column: " ++ column
  | columnWithoutOrder column =>
    "Column '" ++ column ++ "' is not uniformly numeric or temporal and cannot be sorted"
  | noSuchPage page totalPages =>
    "Page " ++ toString page ++ " is out of range (1..=" ++ toString totalPages ++ ")"
  | pageSizeZero => "Page size must be at least 1"
  | service fault => fault.message

/-- Whether the fault lies in what was asked for. -/
def isMisuse : DataFault → Bool
  | setting _ | unknownColumn _ | columnWithoutOrder _ | noSuchPage .. | pageSizeZero => true
  | unreadable _ | json _ | table | service _ => false

end DataFault

end Tabula

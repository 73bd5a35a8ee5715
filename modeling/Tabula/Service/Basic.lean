import Tabula.Dataset

/-!
# The table service

A table service keeps files, each with a series of versions. A `Request` names one of its
operations, an `Answer` is what it replies, and a `ServiceFault` is why it did not. The service may
be far away: a request is sent at one moment and answered at another.
-/

namespace Tabula

/-- The number of a file on the service. -/
abbrev FileNumber := Nat

/-- The number of a version of a file. -/
abbrev VersionNumber := Nat

/-- Why the service gave no answer. -/
inductive ServiceFault where
  /-- The request never got through. -/
  | lost (detail : String)
  /-- The service refused. -/
  | refused (detail : String)
deriving DecidableEq, Repr

/-- The text of a fault. -/
def ServiceFault.message : ServiceFault → String
  | lost detail => "transport error: " ++ detail
  | refused detail => detail

/-- One version in the service's listing of a file. -/
structure Entry where
  /-- The rows of the version. -/
  rows : List Row
  /-- How the version came about. -/
  description : String
  /-- Whether the service regards this version as the current one. -/
  isCurrent : Bool
  /-- The number of the version. -/
  version : VersionNumber
deriving DecidableEq, Repr

/-- The outcome of a filter: its rows and what it did. -/
structure FilterResult where
  /-- The rows that were kept. -/
  rows : List Row
  /-- What the filter did. -/
  description : String
deriving DecidableEq, Repr

/-- One page of a file as the service counts it. -/
structure ServedPage where
  /-- The rows of the page. -/
  rows : List Row
  /-- The number of rows on all pages. -/
  totalRecords : Nat
  /-- The number of pages. -/
  totalPages : Nat
deriving DecidableEq, Repr

/-- The operations of the service. -/
inductive Operation where
  /-- The current rows of a file. -/
  | rows
  /-- The rows of the first version of a file. -/
  | upload
  /-- The listing of a file. -/
  | listing
  /-- The removal of a version. -/
  | remove
  /-- A filter on the current rows, which makes a new version. -/
  | filter
  /-- One page of the current rows. -/
  | page
deriving DecidableEq, Repr

/-- A request to the service. -/
inductive Request where
  /-- Asks for the current rows. -/
  | rows (file : FileNumber)
  /-- Asks for the rows of the first version. -/
  | upload (file : FileNumber)
  /-- Asks for the listing. -/
  | listing (file : FileNumber)
  /-- Asks to remove a version. -/
  | remove (file : FileNumber) (version : VersionNumber)
  /-- Asks to filter the current rows. -/
  | filter (file : FileNumber) (query : String)
  /-- Asks for one page of the current rows. -/
  | page (file : FileNumber) (index size : Nat)
deriving DecidableEq, Repr

/-- The operation of a request. -/
def Request.operation : Request → Operation
  | rows _ => .rows
  | upload _ => .upload
  | listing _ => .listing
  | remove .. => .remove
  | filter .. => .filter
  | page .. => .page

/-- The file of a request. -/
def Request.file : Request → FileNumber
  | rows file | upload file | listing file | remove file _ | filter file _ | page file _ _ => file

/-- What the service replies. -/
inductive Answer where
  /-- Rows. -/
  | rows (rows : List Row)
  /-- A listing. -/
  | listing (entries : List Entry)
  /-- The version is gone. -/
  | removed
  /-- The outcome of a filter. -/
  | filtered (result : FilterResult)
  /-- A page. -/
  | page (page : ServedPage)
deriving DecidableEq, Repr

/-- An answer or the reason for none. -/
abbrev Reply := Except ServiceFault Answer

end Tabula

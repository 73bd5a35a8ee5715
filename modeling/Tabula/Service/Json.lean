import Tabula.Cell.Json
import Tabula.Service.Basic

/-!
# Answers of the service from JSON

Each answer is a record whose fields are all required. A draft holds the fields that were read so
far, and is complete when it holds them all.
-/

namespace Tabula

open Json

/-! ### The listing of a file -/

/-- The fields of a listing entry that were read so far. -/
structure Entry.Draft where
  /-- The rows. -/
  rows : Option (List Row) := none
  /-- The description. -/
  description : Option String := none
  /-- The mark of the current version. -/
  isCurrent : Option Bool := none
  /-- The version number. -/
  version : Option VersionNumber := none

/-- The fields of a listing entry, in order. -/
def Entry.fields : List (FieldDecoder Entry.Draft) :=
  [.of "data" (·.rows) (fun d v => { d with rows := some v }) Row.listDecoder,
   .of "description" (·.description) (fun d v => { d with description := some v }) string,
   .of "is_current" (·.isCurrent) (fun d v => { d with isCurrent := some v }) bool,
   .of "version" (·.version) (fun d v => { d with version := some v }) nat32]

/-- A listing entry. -/
def Entry.decoder : Decoder Entry :=
  record Entry.fields {} fun d => do
    return { rows := ← d.rows, description := ← d.description, isCurrent := ← d.isCurrent,
             version := ← d.version }

/-- A listing. -/
def Entry.listDecoder : Decoder (List Entry) := array Entry.decoder

/-! ### Rows alone, and rows of a filter -/

/-- The fields of an answer with rows that were read so far. -/
structure FilterResult.Draft where
  /-- The rows. -/
  rows : Option (List Row) := none
  /-- The description. -/
  description : Option String := none

/-- The field with the rows. -/
def FilterResult.rowsField : FieldDecoder FilterResult.Draft :=
  .of "data" (·.rows) (fun d v => { d with rows := some v }) Row.listDecoder

/-- The field with the description. -/
def FilterResult.descriptionField : FieldDecoder FilterResult.Draft :=
  .of "description" (·.description) (fun d v => { d with description := some v }) string

/-- A dataset, from the answer that holds its rows. -/
def Dataset.decoder : Decoder Dataset :=
  record [FilterResult.rowsField] {} fun d => d.rows.map Dataset.ofRows

/-- The outcome of a filter. -/
def FilterResult.decoder : Decoder FilterResult :=
  record [FilterResult.rowsField, FilterResult.descriptionField] {} fun d => do
    return { rows := ← d.rows, description := ← d.description }

/-! ### Pages -/

/-- The counts of a page that were read so far. -/
structure ServedPage.CountsDraft where
  /-- The number of rows. -/
  totalRecords : Option Nat := none
  /-- The number of pages. -/
  totalPages : Option Nat := none

/-- The counts of a page: rows, then pages. -/
def ServedPage.countsDecoder : Decoder (Nat × Nat) :=
  record
    [.of "total_records" (·.totalRecords) (fun d v => { d with totalRecords := some v }) nat64,
     .of "total_pages" (·.totalPages) (fun d v => { d with totalPages := some v }) nat64]
    ({} : CountsDraft)
    fun d => do return (← d.totalRecords, ← d.totalPages)

/-- The fields of a page that were read so far. -/
structure ServedPage.Draft where
  /-- The rows. -/
  rows : Option (List Row) := none
  /-- The counts. -/
  counts : Option (Nat × Nat) := none

/-- A page. -/
def ServedPage.decoder : Decoder ServedPage :=
  record
    [.of "data" (·.rows) (fun d v => { d with rows := some v }) Row.listDecoder,
     .of "pagination" (·.counts) (fun d v => { d with counts := some v }) countsDecoder]
    ({} : Draft)
    fun d => do
      let (totalRecords, totalPages) ← d.counts
      return { rows := ← d.rows, totalRecords, totalPages }

/-- The number of a file. -/
def fileNumberDecoder : Decoder FileNumber := nat64

end Tabula

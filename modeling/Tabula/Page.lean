import Tabula.Dataset
import Tabula.Fault

/-!
# Pages

A table is shown in pages of a fixed size, counted from one. The last page may be shorter, and an
empty table still has page one. `PageInfo` says where a page lies among how many; `Dataset.page`
cuts one out.
-/

namespace Tabula

/-- Where a page lies. -/
structure PageInfo where
  /-- The number of the page, from one. -/
  index : Nat
  /-- The number of rows on a full page. -/
  size : Nat
  /-- The number of rows on all pages. -/
  totalRows : Nat
  /-- The number of pages with rows. -/
  totalPages : Nat
deriving DecidableEq, Repr

namespace PageInfo

/-- The number of pages of the given size that hold `rows` rows. -/
def pageCount (rows size : Nat) : Nat :=
  rows / size + if rows % size = 0 then 0 else 1

/-- The first page. -/
def first (totalRows size : Nat) : PageInfo where
  index := 1
  size := size
  totalRows := totalRows
  totalPages := pageCount totalRows size

/-- The greatest page number that may be asked for. -/
def lastIndex (info : PageInfo) : Nat :=
  max info.totalPages 1

/-- Accepts the page numbers that may be asked for. -/
def accept (info : PageInfo) (index : Nat) : Except DataFault Unit :=
  if index < 1 ∨ info.lastIndex < index then
    .error (.noSuchPage index info.totalPages)
  else .ok ()

end PageInfo

/-- Where a page came from. -/
inductive Origin where
  /-- The table in memory. -/
  | memory
  /-- The table service. -/
  | service
  /-- The last known table, since the service did not answer. -/
  | fallback
deriving DecidableEq, Repr

/-- Some rows, and where they lie. -/
structure Page where
  /-- The rows. -/
  rows : List Row
  /-- Where they lie. -/
  info : PageInfo
  /-- Where they came from. -/
  origin : Origin
deriving DecidableEq, Repr

namespace Dataset

/-- The rows of a page. -/
def pageRows (d : Dataset) (index size : Nat) : List Row :=
  (d.rows.drop ((index - 1) * size)).take size

/-- A page of the dataset, if there is one of that number. -/
def page (d : Dataset) (index size : Nat) : Except DataFault Page :=
  if size = 0 then .error .pageSizeZero
  else do
    let info := PageInfo.first d.size size
    info.accept index
    return { rows := d.pageRows index size, info := { info with index }, origin := .memory }

/-- The page of the dataset that is nearest to a page number. -/
def nearestPage (d : Dataset) (index size : Nat) : Page :=
  let info := PageInfo.first d.size size
  let index := min (max index 1) info.lastIndex
  { rows := d.pageRows index size, info := { info with index }, origin := .fallback }

end Dataset

end Tabula

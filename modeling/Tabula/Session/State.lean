import Tabula.Event
import Tabula.Pager
import Tabula.Search
import Tabula.Session.Fault
import Tabula.Sort
import Tabula.Statistics.Summary

/-!
# The state of a session

A session shows one table. It knows the file that the table is on the service, if any, the history
of the table, the profiles of the version on display, the order in which it is sorted and what it is
searched for. `Table` holds these together with what follows from them: the sorted rows, and the
rows of those that match, which are the ones in view.

A `Session` adds the pager, the settings, and the gate that lets one filter through at a time.
-/

namespace Tabula

/-- The table of a session. -/
structure Table where
  /-- The file on the service. -/
  file : Option FileNumber := none
  /-- The versions of the table. -/
  history : History := {}
  /-- The profiles of the version on display. -/
  profiles : Profiles := []
  /-- The order of the rows. -/
  sort : SortOrder := .unsorted
  /-- The version on display, in that order. -/
  sorted : Dataset := {}
  /-- The rows in view. -/
  view : Dataset := {}
  /-- What the rows are searched for. -/
  query : String := ""
deriving DecidableEq, Repr

namespace Table

/-- Where the pages of the view come from. The service pages its current version in stored order, so
it is asked only when that is what is in view. -/
def source (t : Table) : RowSource :=
  match t.file with
  | some file =>
    if t.history.displayed?.any Version.isCurrent && !t.sort.isSet && t.query.isEmpty then
      .service file t.view
    else .memory t.view
  | none => .memory t.view

/-- The table in memory that belongs to the source is the view. -/
theorem dataset_source (t : Table) : t.source.dataset = t.view := by
  unfold source
  split
  · split <;> rfl
  · rfl

/-- Puts the version of the history that is to be displayed on display: profiles it, forgets the
order and searches it again. -/
def display (classifier : Classifier) (t : Table) : Table :=
  match t.history.displayed? with
  | some v =>
    { t with
      profiles := classifier.profile v.dataset
      sort := .unsorted
      sorted := v.dataset
      view := v.dataset.search t.query }
  | none => { t with profiles := [], sort := .unsorted, sorted := {}, view := {} }

/-- The event that announces the version on display. -/
def displayNotice (t : Table) : List Event :=
  match t.history.displayed? with
  | some v => [.displayed v.number v.dataset.size v.dataset.columns.length]
  | none => []

/-- The event that announces that the history was taken over from the service. -/
def listingNotice (t : Table) : Event :=
  .takenOver t.history.size ((t.history.displayed?.map Version.number).getD uploadNumber)

end Table

/-- A table in use. -/
structure Session where
  /-- What the user has chosen. -/
  settings : Settings
  /-- The table. -/
  table : Table := {}
  /-- The pages of the table. -/
  pager : Pager
  /-- Whether a filter is under way. -/
  filtering : Bool := false
deriving DecidableEq, Repr

/-- What a user interface shows of a session. -/
structure Snapshot where
  /-- The file on the service. -/
  file : Option FileNumber
  /-- The number of versions. -/
  versionCount : Nat
  /-- The position of the version on display. -/
  position : Nat
  /-- The number of the version on display. -/
  displayed : Option VersionNumber
  /-- The number of the version that the service holds as current. -/
  current : Option VersionNumber
  /-- Whether there is an older version. -/
  hasOlder : Bool
  /-- Whether there is a newer version. -/
  hasNewer : Bool
  /-- The order of the rows. -/
  sort : SortOrder
  /-- What the rows are searched for. -/
  query : String
  /-- The number of rows in view. -/
  viewSize : Nat
  /-- The page on display. -/
  page : PageInfo
  /-- Whether a filter is under way. -/
  filtering : Bool
deriving DecidableEq, Repr

namespace Session

/-- A session without a table, if the settings make sense. -/
def start (settings : Settings) : Except SessionFault Session :=
  match settings.check with
  | .ok () => .ok { settings, pager := .start settings.pageSize true }
  | .error fault => .error (.data fault)

/-- How columns are classified. -/
def classifier (s : Session) : Classifier :=
  .ofSettings s.settings

/-- How statistics are taken. -/
def statistician (s : Session) : Statistician :=
  .ofSettings s.settings

/-- The session with another table, paged from its first page on. -/
def setTable (s : Session) (t : Table) : Session :=
  { s with table := t, pager := s.pager.restart t.source }

/-- The session with a table whose displayed version is put on display. -/
def display (s : Session) (t : Table) : Session :=
  s.setTable (t.display s.classifier)

/-! ### What a session shows -/

/-- The rows on display, and the number of all rows if they are a page of the service's. Before any
page is loaded, the first page of the view is on display. -/
def shown (s : Session) : List Row × Option Nat :=
  match s.pager.current with
  | some page =>
    (page.rows, if page.origin = .service then some page.info.totalRows else none)
  | none => (s.table.view.pageRows 1 s.pager.info.size, none)

/-- The rows on display. -/
def shownRows (s : Session) : List Row :=
  s.shown.1

/-- The statistics of a column over the rows on display. -/
def columnStatistics (s : Session) (column : String) : Except SessionFault ColumnStatistics :=
  match s.table.profiles.kind? column with
  | none => .error (.data (.unknownColumn column))
  | some kind =>
    let (rows, total) := s.shown
    .ok (s.statistician.column rows column kind total)

/-- The statistics of all columns over the rows on display. -/
def allStatistics (s : Session) : List ColumnStatistics :=
  let (rows, total) := s.shown
  s.statistician.columns rows s.table.profiles total

/-- The summary of all rows in view. -/
def summary (s : Session) : Summary :=
  s.statistician.summary s.table.view.rows s.table.profiles

/-- What a user interface shows. -/
def snapshot (s : Session) : Snapshot where
  file := s.table.file
  versionCount := s.table.history.size
  position := s.table.history.position
  displayed := s.table.history.displayed?.map Version.number
  current := s.table.history.current?.map Version.number
  hasOlder := s.table.history.hasOlder
  hasNewer := s.table.history.hasNewer
  sort := s.table.sort
  query := s.table.query
  viewSize := s.table.view.size
  page := s.pager.info
  filtering := s.filtering

end Session

end Tabula

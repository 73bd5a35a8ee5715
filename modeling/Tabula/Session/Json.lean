import Tabula.Json.Printer
import Tabula.Session.State

/-!
# Snapshots as JSON

Every field is written, in a fixed order. The order of the rows is told by the column, the direction
and the number of clicks that led to it.
-/

namespace Tabula

open Json

/-- The name of a direction. -/
def Direction.name : Direction → String
  | descending => "Descending"
  | ascending => "Ascending"

/-- The name of the direction of a sort state. -/
def SortOrder.directionName : SortOrder → String
  | unsorted => "None"
  | sorted _ direction => direction.name

/-- The document of a sort state. -/
def SortOrder.toJson (s : SortOrder) : Value :=
  .object
    [("column", .ofOption .string s.column?),
     ("direction", .string s.directionName),
     ("click_count", .nat s.clicks)]

/-- The document that says where a page lies. -/
def PageInfo.toJson (info : PageInfo) : Value :=
  .object
    [("page_index", .nat info.index),
     ("page_size", .nat info.size),
     ("total_rows", .nat info.totalRows),
     ("total_pages", .nat info.totalPages)]

/-- The document of a snapshot. -/
def Snapshot.toJson (s : Snapshot) : Value :=
  .object
    [("file_id", .ofOption .nat s.file),
     ("version_count", .nat s.versionCount),
     ("current_index", .nat s.position),
     ("viewed_version", .ofOption .nat s.displayed),
     ("committed_version", .ofOption .nat s.current),
     ("can_undo", .bool s.hasOlder),
     ("can_redo", .bool s.hasNewer),
     ("sort", s.sort.toJson),
     ("search_query", .string s.query),
     ("visible_rows", .nat s.viewSize),
     ("page", s.page.toJson),
     ("commit_in_flight", .bool s.filtering)]

end Tabula

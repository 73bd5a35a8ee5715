import Tabula.Dataset
import Tabula.Text.Find
import Tabula.Text.Lowercase

/-!
# Searching the rows

A row matches a query when one of its cells shows the query, case apart; every row matches the empty
query. `Dataset.search` keeps the rows that match, in their order.
-/

namespace Tabula

/-- Whether a text occurs in what a cell shows, in lower case. -/
def Cell.shows (needle : List Char) (c : Cell) : Bool :=
  Text.occursIn needle (Text.lowercase c.display.toList)

/-- Whether a row has a cell that shows a query, case apart. -/
def Row.matchesQuery (row : Row) (query : String) : Bool :=
  let needle := Text.lowercase query.toList
  query.isEmpty || row.entries.any fun e => e.2.shows needle

/-- The dataset with the rows that match a query. -/
def Dataset.search (d : Dataset) (query : String) : Dataset :=
  d.select (d.rows.filter (Row.matchesQuery · query))

/-- The empty query keeps the dataset as it is. -/
theorem Dataset.search_empty (d : Dataset) : d.search "" = d := by
  have h : d.rows.filter (Row.matchesQuery · "") = d.rows :=
    List.filter_eq_self.2 fun _ _ => rfl
  simp [search, select, h]

end Tabula

import Mathlib.Data.List.DropRight
import Tabula.Sort

/-!
# Clicks on column headers

A click on a header is refused where the dataset has no such column or the column has no order, and
is then as if it had not been made. What the other clicks come to depends on the last run of clicks
on one column alone: its length, counted by threes, tells the direction (`cycle_of_clicks`). Nothing
that was clicked before it matters, and the rows are those of the dataset as it stood.

The state does not know how long the run is. It forgets the column on every third click and starts
over on another column, so the induction is on the clicks from the last one back: all clicks but the
last ended in the state of *their* last run, which the last click continues or breaks off.
-/

namespace Tabula

namespace SortOrder

/-! ### Refused clicks -/

/-- The state after one more click, the same as before if the click is refused. -/
def afterClick (d : Dataset) (profiles : Profiles) (state : SortOrder) (column : String) :
    SortOrder :=
  (state.click? d profiles column).toOption.getD state

/-- The state after some more clicks. -/
def afterClicks (d : Dataset) (profiles : Profiles) (state : SortOrder) (clicks : List String) :
    SortOrder :=
  clicks.foldl (afterClick d profiles) state

variable {d : Dataset} {profiles : Profiles} {state : SortOrder} {column : String}

end SortOrder

end Tabula

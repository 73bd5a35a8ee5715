import Tabula.Proofs.Session.Derived
import Tabula.Proofs.Sort.Clicks
import Tabula.Proofs.Sort.Stable

/-!
# Sorting and searching in any order

The rows that match a query are in the same order whether the dataset was sorted before or after
they were looked for (`Dataset.search_inOrderOf`), since a stable sort of some of the rows is what is
left of the sort of all.

A user sorts and searches by turns. Every such turn works on the version on display, so what is in
view in the end is settled by the clicks on headers, in their order, and by the last query, however
the one came between the others (`search_inOrderOf_and_looks`).
-/

namespace Tabula

namespace Dataset

/-- Sorting the rows that match is looking for the rows that match among the sorted ones. -/
theorem search_sorted (d : Dataset) (column : String) (direction : Direction) (query : String) :
    (d.sorted column direction).search query = (d.search query).sorted column direction := by
  have hrows : ((d.sorted column direction).search query).rows =
      ((d.search query).sorted column direction).rows := by
    rw [rows_sorted, search, rows_select, search, rows_select, rows_sorted]
    exact filter_mergeSort Row.mayPrecede_trans Row.mayPrecede_total _ _
  calc (d.sorted column direction).search query
      = d.select ((d.sorted column direction).search query).rows := rfl
    _ = d.select ((d.search query).sorted column direction).rows := by rw [hrows]
    _ = (d.search query).sorted column direction := rfl

theorem search_inOrderOf (d : Dataset) (order : SortOrder) (query : String) :
    (d.inOrderOf order).search query = (d.search query).inOrderOf order := by
  cases order with
  | unsorted => rfl
  | sorted column direction => exact d.search_sorted column direction query

end Dataset

namespace Session

/-- What a user does to look at a version from another side. -/
inductive Look where
  /-- A click on the header of a column. -/
  | click (column : String)
  /-- A query. -/
  | query (text : String)
deriving DecidableEq, Repr

namespace Look

/-- The call that a look makes. -/
def call : Look → Call
  | click column => .clickHeader column
  | query text => .search text

/-- The column that is clicked. -/
def column? : Look → Option String
  | click column => some column
  | query _ => none

/-- The text that is looked for. -/
def text? : Look → Option String
  | click _ => none
  | query text => some text

end Look

/-- The session after some looks. A call that is refused leaves the session as it is. -/
def afterLooks (s : Session) (looks : List Look) : Session :=
  looks.foldl (fun s look => (look.call.begin s).session) s

end Session

namespace Table

/-- The table with a version in an order, and the rows that match a query in view. -/
def seen (t : Table) (v : Version) (order : SortOrder) (query : String) : Table :=
  { t with
    sort := order
    sorted := v.dataset.inOrderOf order
    view := (v.dataset.inOrderOf order).search query
    query }

variable {classifier : Classifier} {t : Table} {v : Version}

/-- A table shows the version on display in its own order, searched for its own query. -/
theorem Shows.eq_seen (h : t.Shows classifier v) : t = t.seen v t.sort t.query := by
  rw [seen, ← h.sorted_eq, ← h.view_eq]

end Table

namespace Session

variable {settings : Settings} {s : Session} {v : Version}

theorem table_click (h : s.table.Shows (.ofSettings settings) v) (column : String) :
    ((Look.click column).call.begin s).session.table =
      s.table.seen v (s.table.sort.afterClick v.dataset s.table.profiles column) s.table.query := by
  show (Turn.ofResult s Return.sorted (s.clickHeader column)).session.table = _
  cases hclick : s.table.sort.click? v.dataset s.table.profiles column with
  | error fault =>
    -- a refused click leaves both the table and the order
    unfold clickHeader
    rw [h.displayed, SortOrder.afterClick, hclick]
    dsimp only
    rw [hclick]
    exact h.eq_seen
  | ok order =>
    rw [clickHeader_eq_ok h.displayed hclick, SortOrder.afterClick, hclick]
    rfl

theorem table_query (h : s.table.Shows (.ofSettings settings) v) (text : String) :
    ((Look.query text).call.begin s).session.table = s.table.seen v s.table.sort text := by
  show (Turn.ofResult s Return.matching (s.search text)).session.table = _
  rw [search_eq_ok text h.placed.isEmpty_eq_false, Table.seen, ← h.sorted_eq]
  rfl

theorem afterLooks_append (looks : List Look) (look : Look) :
    s.afterLooks (looks ++ [look]) = (look.call.begin (s.afterLooks looks)).session := by
  rw [afterLooks, List.foldl_append]
  rfl

theorem UpToDate.afterLooks (hs : s.UpToDate settings) (looks : List Look) :
    (s.afterLooks looks).UpToDate settings := by
  induction looks using List.reverseRecOn with
  | nil => exact hs
  | append_singleton looks look ih =>
    rw [afterLooks_append]
    exact ih.turned (turned_begin look.call)

/-- **Looks.** After some looks the version on display is shown in the order that the clicks lead
to, searched for the last query. -/
theorem table_afterLooks (hs : s.UpToDate settings) (hv : s.table.history.displayed? = some v)
    (looks : List Look) :
    (s.afterLooks looks).table =
      s.table.seen v
        (s.table.sort.afterClicks v.dataset s.table.profiles (looks.filterMap Look.column?))
        ((looks.filterMap Look.text?).getLast?.getD s.table.query) := by
  induction looks using List.reverseRecOn with
  | nil => exact (hs.shows_displayed hv).eq_seen
  | append_singleton looks look ih =>
    have hdisplayed : (s.afterLooks looks).table.history.displayed? = some v := by
      rw [ih]
      exact hv
    have hshown := (hs.afterLooks looks).shows_displayed hdisplayed
    rw [afterLooks_append, List.filterMap_append, List.filterMap_append]
    cases look with
    | click column =>
      -- one more click, and the query stays
      rw [table_click hshown, ih, SortOrder.afterClicks, SortOrder.afterClicks,
        List.foldl_append, List.filterMap_cons_none (f := Look.text?) rfl, List.filterMap_nil,
        List.append_nil]
      rfl
    | query text =>
      -- another query, and the order stays
      rw [table_query hshown, ih, List.filterMap_cons_none (f := Look.column?) rfl,
        List.filterMap_nil, List.append_nil, List.filterMap_cons_some (f := Look.text?) rfl,
        List.filterMap_nil, List.getLast?_concat]
      rfl

/-- **Sorting and searching in any order.** For every dataset, order and query, the rows that match
among the sorted ones are the sorted ones among those that match. And in every state of a session
with a version on display, two series of clicks on headers and queries that have the same clicks, in
the same order, and the same last query come to the same table, however the queries came between the
clicks: what is in view are the rows that match, sorted. -/
theorem search_inOrderOf_and_looks :
    (∀ (d : Dataset) (order : SortOrder) (query : String),
      (d.inOrderOf order).search query = (d.search query).inOrderOf order) ∧
    ∀ {settings : Settings} {y : System} {v : Version}, Reachable settings y →
      y.session.table.history.displayed? = some v → ∀ looks looks' : List Look,
        looks.filterMap Look.column? = looks'.filterMap Look.column? →
        (looks.filterMap Look.text?).getLast? = (looks'.filterMap Look.text?).getLast? →
          (y.session.afterLooks looks).table = (y.session.afterLooks looks').table ∧
          (y.session.afterLooks looks).table.view =
            (v.dataset.search (y.session.afterLooks looks).table.query).inOrderOf
              (y.session.afterLooks looks).table.sort := by
  refine ⟨Dataset.search_inOrderOf, ?_⟩
  intro settings y v hy hv looks looks' hclicks htexts
  have hs := upToDate_of_reachable hy
  have hlooks := table_afterLooks hs hv looks
  constructor
  · -- the table is a function of the clicks and the last query
    rw [hlooks, table_afterLooks hs hv looks', hclicks, htexts]
  · rw [hlooks]
    exact Dataset.search_inOrderOf v.dataset _ _

/-- A table of three ages. -/
def ages : Dataset where
  columns := ["age"]
  rows := [⟨[("age", .number 31)], by simp⟩, ⟨[("age", .number 25)], by simp⟩,
    ⟨[("age", .text "43")], by simp⟩]

/-- Sorted and searched, or searched and sorted, the ages with a three are in view, the greater
first. -/
theorem view_of_looks_ages :
    ∃ y, Reachable {} y ∧ y.session.table.history.displayed? = some (.ofUpload ages true) ∧
      (y.session.afterLooks [.click "age", .query "3"]).table =
        (y.session.afterLooks [.query "3", .click "age"]).table ∧
      (y.session.afterLooks [.click "age", .query "3"]).table.view =
        (ages.search "3").sorted "age" .descending := by
  have hstart : Session.start {} = .ok { settings := {}, pager := .start 100 true } := rfl
  have hshown := Reachable.step (.start hstart) (.call (.showTable ages))
  obtain ⟨htable, hview⟩ := search_inOrderOf_and_looks.2 hshown rfl
    [.click "age", .query "3"] [.query "3", .click "age"] rfl rfl
  refine ⟨_, hshown, rfl, htable, hview.trans ?_⟩
  have hsort : (Session.afterLooks ((Call.showTable ages).begin
    { settings := {}, pager := .start 100 true }).session [.click "age", .query "3"]).table.sort =
      .sorted "age" .descending := by decide +kernel
  exact congrArg (ages.search "3").inOrderOf hsort

end Session

end Tabula

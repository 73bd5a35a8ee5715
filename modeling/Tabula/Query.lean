import Tabula.Cell.Order
import Tabula.Dataset
import Tabula.Search
import Tabula.Text.Quoted

/-!
# Filter queries

A query compares a column with an operand: `age > 30`, `name contains ann`. The first comparison in
the order of `Comparison.all` whose sign occurs in the text splits it, at the first place where the
sign occurs. Cells are compared with the operand the way sorting compares them.
-/

namespace Tabula

/-- How a cell is compared with an operand. -/
inductive Comparison where
  /-- Not before the operand. -/
  | atLeast
  /-- Not after the operand. -/
  | atMost
  /-- Not equal to the operand. -/
  | differs
  /-- Equal to the operand. -/
  | equals
  /-- After the operand. -/
  | above
  /-- Before the operand. -/
  | below
  /-- With a text in which the operand occurs, case apart. -/
  | contains
deriving DecidableEq, Repr

namespace Comparison

/-- The comparisons in the order in which their signs are looked for. -/
def all : List Comparison :=
  [atLeast, atMost, differs, equals, above, below, contains]

/-- The name of a comparison in a description. -/
def name : Comparison → String
  | atLeast => ">="
  | atMost => "<="
  | differs => "!="
  | equals => "="
  | above => ">"
  | below => "<"
  | contains => "contains"

/-- The text that stands for a comparison in a query. A word needs blanks around it. -/
def sign : Comparison → List Char
  | contains => " contains ".toList
  | c => c.name.toList

/-- Whether a cell stands in the relation to an operand. -/
def holds (c : Comparison) (cell operand : Cell) : Bool :=
  match c with
  | atLeast => (cell.compare operand).isGE
  | atMost => (cell.compare operand).isLE
  | differs => (cell.compare operand).isNe
  | equals => (cell.compare operand).isEq
  | above => (cell.compare operand).isGT
  | below => (cell.compare operand).isLT
  | contains => cell.shows (Text.lowercase operand.display.toList)

end Comparison

/-- A filter on one column. -/
structure Query where
  /-- The column. -/
  column : String
  /-- The comparison. -/
  comparison : Comparison
  /-- What the cells are compared with. -/
  operand : String
deriving DecidableEq, Repr

/-- Why a query could not be run. -/
inductive QueryFault where
  /-- The text holds no comparison. -/
  | notUnderstood (text : String)
  /-- The dataset has other columns. -/
  | unknownColumn (available : List String)
deriving DecidableEq, Repr

/-- The text of a fault. -/
def QueryFault.message : QueryFault → String
  | notUnderstood text => "Could not understand the query '" ++ text ++ "'"
  | unknownColumn available =>
    "Column not found in table. Available columns: " ++ Text.quotedList available

namespace Query

/-- Whether a character is a quotation mark that may enclose an operand. -/
def isMark (c : Char) : Bool :=
  c = '"' || c = '\''

/-- An operand without the quotation marks at its ends. -/
def unmarked (s : List Char) : List Char :=
  ((s.dropWhile isMark).reverse.dropWhile isMark).reverse

/-- The query that a text writes with a given comparison. -/
def ofComparison? (text : List Char) (c : Comparison) : Option Query :=
  (Text.cut? c.sign text).map fun (before, after) =>
    { column := String.ofList (Text.trim before)
      comparison := c
      operand := String.ofList (unmarked (Text.trim after)) }

/-- The query that a text writes. -/
def parse? (text : String) : Option Query :=
  Comparison.all.findSome? (ofComparison? text.toList)

/-- Whether a query keeps a row. -/
def keeps (q : Query) (row : Row) : Bool :=
  q.comparison.holds (Row.cell row q.column) (.text q.operand)

/-- The text that says what a query does. -/
def description (q : Query) : String :=
  "Filter rows where " ++ q.column ++ " " ++ q.comparison.name ++ " " ++ q.operand

/-- The dataset with the rows that a query keeps. -/
def select (q : Query) (d : Dataset) : Dataset :=
  d.select (d.rows.filter q.keeps)

/-- Runs the query that a text writes: the rows that it keeps, and what it does. -/
def run (d : Dataset) (text : String) : Except QueryFault (Dataset × String) :=
  match parse? text with
  | none => .error (.notUnderstood text)
  | some q =>
    if d.isColumn q.column then .ok (q.select d, q.description)
    else .error (.unknownColumn d.columns)

theorem run_eq_ok_iff {d : Dataset} {text : String} {r : Dataset × String} :
    run d text = .ok r ↔
      ∃ q, parse? text = some q ∧ d.isColumn q.column = true ∧ r = (q.select d, q.description) := by
  unfold run
  cases parse? text with
  | none => simp
  | some q => cases hcolumn : d.isColumn q.column <;> simp [hcolumn, eq_comm (b := r)]

end Query

end Tabula

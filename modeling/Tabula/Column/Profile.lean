import Tabula.Dataset
import Tabula.Settings

/-!
# Column profiles

A `Classifier` decides what the values of a column are. A column whose kind the user has fixed has
that kind. Any other column is numeric when it has a value and every value in it reads as a number,
else temporal when it has a value and every value reads as a date, else categorical; missing cells
are no values. The values are looked at one by one, and no further ones once neither numbers nor
dates are possible any more.
-/

namespace Tabula

/-- A column and its kind. -/
structure Profile where
  /-- The name of the column. -/
  column : String
  /-- What its values are. -/
  kind : ColumnKind
deriving DecidableEq, Repr

/-- The profiles of a dataset's columns, in column order. -/
abbrev Profiles := List Profile

namespace Profiles

/-- The kind of a column, if it has a profile. -/
def kind? (profiles : Profiles) (column : String) : Option ColumnKind :=
  (profiles.find? fun p => p.column == column).map Profile.kind

/-- Whether a column may be sorted. -/
def hasOrder (profiles : Profiles) (column : String) : Bool :=
  (profiles.kind? column).any ColumnKind.hasOrder

end Profiles

/-- What the values of a column have shown so far. -/
structure Evidence where
  /-- The number of values. -/
  count : Nat := 0
  /-- Whether they all read as numbers. -/
  allNumbers : Bool := true
  /-- Whether they all read as dates. -/
  allMoments : Bool := true
deriving DecidableEq, Repr

namespace Evidence

/-- Takes in a value; what it reads as matters only as long as all values before read so. -/
def add (e : Evidence) (value : Cell) : Evidence where
  count := e.count + 1
  allNumbers := e.allNumbers && value.number?.isSome
  allMoments := e.allMoments && value.moment?.isSome

/-- Whether no further value makes a difference. -/
def isFinal (e : Evidence) : Bool :=
  !e.allNumbers && !e.allMoments

/-- The kind of a column with these values. -/
def kind (e : Evidence) : ColumnKind :=
  if e.count = 0 then .categorical
  else if e.allNumbers then .numeric
  else if e.allMoments then .temporal
  else .categorical

end Evidence

/-- How columns are classified. -/
structure Classifier where
  /-- Which cells count as missing. -/
  missing : MissingRule := {}
  /-- The kinds that are fixed, by column. -/
  fixed : OrderedMap ColumnKind := ∅
deriving Repr

namespace Classifier

/-- The classifier that follows the settings. -/
def ofSettings (s : Settings) : Classifier where
  missing := s.missing
  fixed := s.columnKinds

/-- Looks at the cells of a column, from the first row to the last, until the kind is certain. -/
def gather (c : Classifier) (e : Evidence) : List Cell → Evidence
  | [] => e
  | cell :: rest =>
    if c.missing.isMissing cell then c.gather e rest
    else if (e.add cell).isFinal then e.add cell
    else c.gather (e.add cell) rest

/-- The kind of a column by its values alone. -/
def infer (c : Classifier) (d : Dataset) (column : String) : ColumnKind :=
  (c.gather {} (d.column column)).kind

/-- The kind of a column. -/
def kind (c : Classifier) (d : Dataset) (column : String) : ColumnKind :=
  (c.fixed.get? column).getD (c.infer d column)

/-- The profiles of all columns of a dataset. -/
def profile (c : Classifier) (d : Dataset) : Profiles :=
  d.columns.map fun column => ⟨column, c.kind d column⟩

end Classifier

end Tabula

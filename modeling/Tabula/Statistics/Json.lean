import Tabula.Statistics.Column

/-!
# Statistics as JSON

Every field is written, in a fixed order, and what does not apply is the empty value.
-/

namespace Tabula

open Json

/-- Two whole numbers in a list. -/
def Json.Value.pair (p : Nat × Nat) : Value :=
  .array [.nat p.1, .nat p.2]

/-- The document of a note. -/
def Omission.toJson (note : Omission) : Value :=
  .object
    [("median_sample", .ofOption .pair note.medianSample),
     ("page_scope", .ofOption .pair note.pageScope)]

/-- The document of the statistics of a column. -/
def ColumnStatistics.toJson (s : ColumnStatistics) : Value :=
  .object
    [("column", .string s.column),
     ("kind", .string s.kind.name),
     ("count", .nat s.count),
     ("null_count", .nat s.missingCount),
     ("min", .ofOption .real s.min),
     ("max", .ofOption .real s.max),
     ("mean", .ofOption .real s.mean),
     ("median", .ofOption .real s.median),
     ("std_dev", .ofOption .real s.stdDev),
     ("range", .ofOption .real s.range),
     ("mode", .ofOption .string s.mode),
     ("unique_count", .ofOption .nat s.uniqueCount),
     ("sample_note", .ofOption Omission.toJson s.omission)]

end Tabula

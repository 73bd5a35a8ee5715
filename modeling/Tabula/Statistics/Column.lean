import Tabula.Column.Profile
import Tabula.Statistics.Frequency
import Tabula.Statistics.Median

/-!
# Statistics of one column

Rows are visited in batches, twice for a numeric column. The first pass counts values, texts,
extremes and the sum; the second sums the squared distances from the mean and keeps the values that
the median is taken from. Up to a limit these are all values, and beyond it every value at a
multiple of the *stride*, so that their number stays below twice the limit. The result says when the
median comes from a sample, and when the rows are one page of a larger table.
-/

namespace Tabula

/-- What the statistics leave out. -/
structure Omission where
  /-- The number of values that the median was taken from, and the number of all values. -/
  medianSample : Option (Nat × Nat) := none
  /-- The number of rows that were looked at, and the number of all rows. -/
  pageScope : Option (Nat × Nat) := none
deriving DecidableEq, Repr

/-- The text of a note. -/
def Omission.message (note : Omission) : String :=
  let sample := note.medianSample.map fun (taken, all) =>
    "median estimated from " ++ toString taken ++ " of " ++ toString all ++ " values"
  let scope := note.pageScope.map fun (seen, all) =>
    "computed over " ++ toString seen ++ " of " ++ toString all ++ " rows"
  "; ".intercalate (sample.toList ++ scope.toList)

/-- The statistics of a column; what does not apply is absent. -/
structure ColumnStatistics where
  /-- The name of the column. -/
  column : String
  /-- What its values are taken as. -/
  kind : ColumnKind
  /-- The number of values. -/
  count : Nat := 0
  /-- The number of missing cells. -/
  missingCount : Nat
  /-- The least number. -/
  min : Option Float := none
  /-- The greatest number. -/
  max : Option Float := none
  /-- The mean of the numbers. -/
  mean : Option Float := none
  /-- The median of the numbers, or of a sample of them. -/
  median : Option Float := none
  /-- The standard deviation of the numbers. -/
  stdDev : Option Float := none
  /-- The distance between the least and the greatest number. -/
  range : Option Float := none
  /-- The most frequent text. -/
  mode : Option String := none
  /-- The number of distinct texts. -/
  uniqueCount : Option Nat := none
  /-- What was left out. -/
  omission : Option Omission := none
deriving DecidableEq, Repr

/-- Whether the median comes from a sample. -/
def ColumnStatistics.hasSampledMedian (s : ColumnStatistics) : Bool :=
  s.omission.any fun note => note.medianSample.isSome

/-- How statistics are taken. -/
structure Statistician where
  /-- The number of rows that are taken at a time. -/
  batchSize : Nat := 1000
  /-- The greatest number of values whose median is taken exactly. -/
  exactMedianLimit : Nat := 10000
  /-- Which cells count as missing. -/
  missing : MissingRule := {}
  /-- A batch holds a row. -/
  batchSize_pos : 0 < batchSize := by decide
  /-- One value always has an exact median. -/
  exactMedianLimit_pos : 0 < exactMedianLimit := by decide
deriving Repr

namespace Statistician

/-- The statistician with another batch size, at least one. -/
def setBatchSize (s : Statistician) (n : Nat) : Statistician :=
  { s with batchSize := max n 1, batchSize_pos := by omega }

/-- The statistician with another limit of the exact median, at least one. -/
def setExactMedianLimit (s : Statistician) (n : Nat) : Statistician :=
  { s with exactMedianLimit := max n 1, exactMedianLimit_pos := by omega }

/-- The statistician that follows the settings. -/
def ofSettings (settings : Settings) : Statistician :=
  ({ missing := settings.missing } : Statistician).setBatchSize settings.batchSize
    |>.setExactMedianLimit settings.exactMedianLimit

/-- A list in pieces of `n`, the last one shorter if need be. -/
def batches {α : Type} (n : Nat) (l : List α) : List (List α) :=
  if _h : n = 0 ∨ l = [] then []
  else l.take n :: batches n (l.drop n)
termination_by l.length
decreasing_by
  have := List.length_pos_iff.2 (not_or.1 ‹_›).2
  simp only [List.length_drop]
  omega

/-- Folds over the cells of a column, one batch of rows after the other. -/
def foldCells {σ : Type} (s : Statistician) (rows : List Row) (column : String) (f : σ → Cell → σ)
    (start : σ) : σ :=
  (batches s.batchSize rows).foldl
    (fun state batch => batch.foldl (fun state row => f state (Row.cell row column)) state) start

/-! ### The first pass -/

/-- The greater number, the second where neither is: of two zeros with different signs the later one
stays. -/
def greater (x y : Float) : Float :=
  if x > y then x else y

/-- The lesser number, the second where neither is. -/
def lesser (x y : Float) : Float :=
  if x < y then x else y

/-- What the first pass gathers. -/
structure Tally where
  /-- The number of values. -/
  count : Nat := 0
  /-- The number of missing cells. -/
  missingCount : Nat := 0
  /-- The number of values that read as numbers. -/
  numbers : Nat := 0
  /-- The sum of the numbers. -/
  sum : Float := 0.0
  /-- The least number. -/
  min : Float := 1.0 / 0.0
  /-- The greatest number. -/
  max : Float := -1.0 / 0.0
  /-- How often each text occurs. -/
  frequencies : Frequencies := {}

/-- Takes in a number. -/
def Tally.withNumber (t : Tally) (x : Float) : Tally :=
  { t with
    numbers := t.numbers + 1
    sum := t.sum + x
    min := lesser t.min x
    max := greater t.max x }

/-- The text that a value is counted under. -/
def countedText (c : Cell) : String :=
  String.ofList (Text.trimmed c.display)

/-- Takes in a value; numbers are gathered for numeric columns only. -/
def Tally.withValue (numeric : Bool) (t : Tally) (c : Cell) : Tally :=
  let t := { t with count := t.count + 1, frequencies := t.frequencies.add (countedText c) }
  match numeric, c.number? with
  | true, some x => t.withNumber x
  | _, _ => t

/-- Takes in a cell. -/
def addCell (s : Statistician) (numeric : Bool) (t : Tally) (c : Cell) : Tally :=
  if s.missing.isMissing c then { t with missingCount := t.missingCount + 1 }
  else t.withValue numeric c

/-- The tally of a column. -/
def tally (s : Statistician) (rows : List Row) (column : String) (numeric : Bool) : Tally :=
  s.foldCells rows column (s.addCell numeric) {}

/-! ### The second pass -/

/-- What the second pass gathers. -/
structure Spread where
  /-- The sum of the squared distances from the mean. -/
  squares : Float := 0.0
  /-- The values kept for the median, latest first. -/
  sample : List Float := []
  /-- The number of numbers so far. -/
  seen : Nat := 0
deriving Repr

/-- Takes in a cell. -/
def addSpread (s : Statistician) (mean : Float) (stride : Nat) (acc : Spread) (c : Cell) :
    Spread :=
  if s.missing.isMissing c then acc
  else
    match c.number? with
    | none => acc
    | some x =>
      { squares := acc.squares + (x - mean) * (x - mean)
        sample := if acc.seen % stride = 0 then x :: acc.sample else acc.sample
        seen := acc.seen + 1 }

/-- The spread of a column around its mean. -/
def spread (s : Statistician) (rows : List Row) (column : String) (mean : Float) (stride : Nat) :
    Spread :=
  s.foldCells rows column (s.addSpread mean stride) {}

/-- The distance between values kept for the median. -/
def stride (s : Statistician) (count : Nat) : Nat :=
  if count ≤ s.exactMedianLimit then 1 else max (count / s.exactMedianLimit) 1

/-! ### The result -/

/-- The part of the table that some rows are, when they are one page of `total` rows. -/
def pageScope (rows : List Row) (total : Option Nat) : Option (Nat × Nat) :=
  (total.filter fun n => rows.length < n).map fun n => (rows.length, n)

/-- The number as a floating-point number. -/
def asFloat (n : Nat) : Float :=
  Float.ofNat n

/-- Fills in what numbers alone have. -/
def withNumbers (s : Statistician) (rows : List Row) (column : String) (t : Tally)
    (result : ColumnStatistics) : ColumnStatistics × Option (Nat × Nat) :=
  let mean := t.sum / asFloat t.numbers
  let spread := s.spread rows column mean (s.stride t.numbers)
  let sample := spread.sample.reverse
  ({ result with
      min := some t.min
      max := some t.max
      range := some (t.max - t.min)
      mean := some mean
      stdDev := some (spread.squares / asFloat t.numbers).sqrt
      median := median? sample },
    if s.exactMedianLimit < t.numbers then some (sample.length, t.numbers) else none)

/-- The statistics of a column over some rows, which are one page of `total` rows if that is
given. -/
def column (s : Statistician) (rows : List Row) (column : String) (kind : ColumnKind)
    (total : Option Nat) : ColumnStatistics :=
  let numeric := kind = .numeric
  let t := s.tally rows column numeric
  let absent : ColumnStatistics := { column, kind, missingCount := t.missingCount }
  if t.count = 0 then absent
  else
    let base := { absent with
      count := t.count
      uniqueCount := some t.frequencies.distinct
      mode := t.frequencies.mode? }
    let (filled, medianSample) :=
      if numeric ∧ 0 < t.numbers then s.withNumbers rows column t base else (base, none)
    let note : Omission := { medianSample, pageScope := pageScope rows total }
    { filled with omission := if note = {} then none else some note }

/-- The statistics of every profiled column. -/
def columns (s : Statistician) (rows : List Row) (profiles : Profiles) (total : Option Nat) :
    List ColumnStatistics :=
  profiles.map fun p => s.column rows p.column p.kind total

end Statistician

end Tabula

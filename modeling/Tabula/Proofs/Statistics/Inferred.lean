import Tabula.Proofs.Column.Kind
import Tabula.Proofs.Statistics.Sampling

/-!
# Statistics of columns whose kind was inferred

The kind of a column is inferred from all rows of a table, and statistics are taken of any of them,
by a reading of their own. Both look at the same values, the cells that are not missing, and read
numbers from them in the same way. So in a column that was found to be numeric no value is passed
over: what is summed is as many numbers as there are values, and every measure has a result as soon
as there is a value. Columns that were found to be something else have no measures
(`measures_of_inferred`).
-/

namespace Tabula

/-- The measures of numbers. -/
def ColumnStatistics.measures (result : ColumnStatistics) : List (Option Float) :=
  [result.min, result.max, result.mean, result.median, result.stdDev, result.range]

theorem isSome_median? {values : List Float} (hne : values ≠ []) :
    (median? values).isSome = true := by
  obtain ⟨m, hm⟩ := exists_isMedian hne
  rw [hm.median?_eq_some, Option.isSome_some]

theorem Classifier.kind_of_not_fixed {c : Classifier} {d : Dataset} {column : String}
    (h : c.fixed.get? column = none) : c.kind d column = c.infer d column := by
  rw [kind, h, Option.getD_none]

namespace Statistician

variable (s : Statistician) (rows : List Row) (column : String)

/-! ### Sums and samples -/

theorem Tally.sum_ofValues (values : List Cell) :
    (Tally.ofValues true values).sum = (values.filterMap Cell.number?).foldl (· + ·) 0.0 := by
  induction values using List.reverseRecOn with
  | nil => rfl
  | append_singleton values c ih =>
    rw [Tally.ofValues, List.foldl_concat, ← Tally.ofValues, List.filterMap_append,
      List.foldl_append, ← ih]
    cases h : c.number? <;> simp [Tally.withValue, Tally.withNumber, h]

theorem sum_tally :
    (s.tally rows column true).sum = (s.numbers rows column).foldl (· + ·) 0.0 := by
  rw [tally_eq, Tally.sum_ofValues, numbers]

theorem stride_pos (n : Nat) : 0 < s.stride n := by
  rw [stride]
  split
  · decide
  · exact Nat.le_max_right _ _

/-- The first number is kept, whatever the stride. -/
theorem sample_ne_nil (hpos : 0 < (s.numbers rows column).length) : s.sample rows column ≠ [] := by
  intro hnil
  have hfirst := getElem?_everyNth (s.stride_pos (s.numbers rows column).length)
    (s.numbers rows column) 0
  rw [← sample_eq, hnil, Nat.mul_zero, List.getElem?_eq_getElem hpos] at hfirst
  exact absurd hfirst (by simp)

/-! ### The measures -/

/-- The measures of a numeric column with numbers are those of its numbers; of any other column
there is none. -/
theorem measures_column (kind : ColumnKind) (total : Option Nat) :
    let t := s.tally rows column true
    let mean := t.sum / asFloat t.numbers
    let squares := (s.spread rows column mean (s.stride t.numbers)).squares
    (s.column rows column kind total).measures =
      if kind = .numeric ∧ 0 < t.numbers
      then [some t.min, some t.max, some mean, median? (s.sample rows column),
        some (squares / asFloat t.numbers).sqrt, some (t.max - t.min)]
      else List.replicate 6 none := by
  intro t mean squares
  rw [Statistician.column]
  by_cases hkind : kind = .numeric
  · subst hkind
    simp only [decide_true, true_and]
    split
    · next hcount =>
      -- without values there are no numbers either
      have hvalues : (s.values rows column).length = 0 := by
        rw [← hcount, tally_eq, Tally.count_ofValues]
      have hnone : ¬ 0 < t.numbers := by
        have hle := s.length_numbers_le rows column
        rw [← numbers_tally, hvalues] at hle
        exact Nat.not_lt.2 hle
      rw [if_neg hnone]
      rfl
    · by_cases hpos : 0 < t.numbers
      · rw [if_pos hpos, if_pos hpos]
        rfl
      · rw [if_neg hpos, if_neg hpos]
        rfl
  · simp only [hkind, decide_false, false_and, if_false]
    split <;> rfl

theorem measures_eq_none {kind : ColumnKind} {total : Option Nat}
    (h : ¬ (kind = .numeric ∧ 0 < (s.tally rows column true).numbers)) :
    ∀ m ∈ (s.column rows column kind total).measures, m = none := by
  rw [measures_column, if_neg h]
  exact fun m => List.eq_of_mem_replicate

theorem isSome_measures {kind : ColumnKind} {total : Option Nat} (hkind : kind = .numeric)
    (hpos : 0 < (s.tally rows column true).numbers) :
    ∀ m ∈ (s.column rows column kind total).measures, m.isSome = true := by
  have hmedian := isSome_median? (s.sample_ne_nil rows column (s.numbers_tally rows column ▸ hpos))
  rw [measures_column, if_pos ⟨hkind, hpos⟩]
  simpa using hmedian

theorem mean_column {kind : ColumnKind} {total : Option Nat} (hkind : kind = .numeric)
    (hpos : 0 < (s.tally rows column true).numbers) :
    (s.column rows column kind total).mean =
      some ((s.numbers rows column).foldl (· + ·) 0.0 /
        asFloat (s.numbers rows column).length) := by
  have hmeasures := s.measures_column rows column kind total
  extract_lets t mean squares at hmeasures
  rw [if_pos ⟨hkind, hpos⟩, ColumnStatistics.measures] at hmeasures
  obtain ⟨-, -, hmean, -⟩ := by simpa only [List.cons.injEq] using hmeasures
  rw [hmean, ← sum_tally, ← numbers_tally]

/-! ### Columns of values that are all numbers -/

/-- Where all values are numbers, none is passed over. -/
theorem map_number?_values
    (h : ∀ value ∈ s.values rows column, value.number?.isSome = true) :
    (s.values rows column).map Cell.number? = (s.numbers rows column).map some := by
  rw [numbers]
  generalize s.values rows column = values at h
  induction values with
  | nil => rfl
  | cons value values ih =>
    obtain ⟨x, hx⟩ := Option.isSome_iff_exists.1 (h value List.mem_cons_self)
    rw [List.map_cons, List.filterMap_cons_some hx, List.map_cons, hx,
      ih fun value hvalue => h value (List.mem_cons_of_mem _ hvalue)]

theorem count_column (kind : ColumnKind) (total : Option Nat) :
    (s.column rows column kind total).count = (s.values rows column).length := by
  rw [(s.counts_column rows column (s.tally_eq ..) total).1, Tally.count_ofValues]

/-- **Statistics of columns whose kind was inferred.** Let the kind of a column be the one that all
rows of a table show, and let statistics be taken of any of its rows. If the column is numeric, each
of the values there is read as a number: both passes take in as many numbers as there are values,
the mean is their sum divided by the number of values, and all measures have a result if there is a
value, and none if there is not. If the column is of another kind, no measure has a result. -/
theorem measures_of_inferred (settings : Settings) (d : Dataset) (column : String)
    (hfree : settings.columnKinds.get? column = none) {rows : List Row} (hrows : rows ⊆ d.rows)
    (total : Option Nat) :
    let s : Statistician := .ofSettings settings
    let kind := (Classifier.ofSettings settings).kind d column
    let numbers := s.numbers rows column
    let result := s.column rows column kind total
    (kind = .numeric →
      (s.values rows column).map Cell.number? = numbers.map some ∧
        (s.tally rows column true).numbers = result.count ∧
        (∀ mean stride, (s.spread rows column mean stride).seen = result.count) ∧
        (0 < result.count →
          result.mean = some (numbers.foldl (· + ·) 0.0 / asFloat result.count) ∧
            ∀ m ∈ result.measures, m.isSome = true) ∧
        (result.count = 0 → ∀ m ∈ result.measures, m = none)) ∧
      (kind ≠ .numeric → ∀ m ∈ result.measures, m = none) := by
  intro s kind numbers result
  refine ⟨fun hkind => ?_, fun hkind => s.measures_eq_none rows column fun h => hkind h.1⟩
  have hall : ∀ value ∈ s.values rows column, value.number?.isSome = true := by
    have hinferred : (Classifier.ofSettings settings).infer d column = .numeric := by
      rw [← hkind]
      exact (Classifier.kind_of_not_fixed hfree).symm
    obtain ⟨-, hnumbers⟩ := ((Classifier.infer_eq_iff _ d column).1).1 hinferred
    intro value hvalue
    -- the rows that statistics are taken of have no values but those of the table
    rw [values, List.mem_filter, List.mem_map, Bool.not_eq_true'] at hvalue
    obtain ⟨⟨row, hrow, hcell⟩, hmissing⟩ := hvalue
    exact hnumbers value (Classifier.mem_values_iff.2 ⟨⟨row, hrows hrow, hcell⟩, hmissing⟩)
  -- so there are as many numbers as values, in either pass
  have hmap := s.map_number?_values rows column hall
  have hcount : numbers.length = result.count := by
    rw [count_column, ← List.length_map some, ← hmap, List.length_map]
  have htally : (s.tally rows column true).numbers = result.count :=
    (s.numbers_tally rows column).trans hcount
  refine ⟨hmap, htally, fun mean stride => ?_, fun hpos => ?_, fun hzero => ?_⟩
  · rw [spread_eq, Spread.seen_ofNumbers]
    exact hcount
  · rw [← htally] at hpos
    refine ⟨?_, s.isSome_measures rows column hkind hpos⟩
    rw [← hcount]
    exact s.mean_column rows column hkind hpos
  · refine s.measures_eq_none rows column fun h => ?_
    rw [htally, hzero] at h
    exact absurd h.2 (by decide)

/-- A table whose numbers are written in several ways, with a row that misses one. -/
def readings : Dataset where
  columns := ["level"]
  rows := [⟨[("level", .number 5)], by simp⟩, ⟨[("level", .text "N/A")], by simp⟩,
    ⟨[("level", .text " 3 ")], by simp⟩, ⟨[("level", .text "1e1")], by simp⟩]

/-- A page of the readings without the first one. -/
def readingsPage : List Row :=
  readings.rows.drop 1

/-- A page of the readings that misses all numbers. -/
def missedPage : List Row :=
  readingsPage.take 1

/-- The column of the readings is numeric. On a page of them, the mean is that of three and ten, and
all measures have a result; on a page without numbers, none has one. -/
theorem measures_of_inferred_readings :
    let settings : Settings := {}
    let s : Statistician := .ofSettings settings
    let kind := (Classifier.ofSettings settings).kind readings "level"
    let result := s.column readingsPage "level" kind none
    (settings.columnKinds.get? "level" = none ∧ kind = .numeric ∧ readingsPage ⊆ readings.rows ∧
        missedPage ⊆ readings.rows) ∧
      result.count = 2 ∧ result.mean = some 6.5 ∧ (∀ m ∈ result.measures, m.isSome = true) ∧
      ∀ m ∈ (s.column missedPage "level" kind none).measures, m = none := by
  intro settings s kind result
  have hfree : settings.columnKinds.get? "level" = none := rfl
  have hkind : kind = .numeric := by decide +kernel
  have hpage : readingsPage ⊆ readings.rows := List.drop_subset _ _
  have hmissed : missedPage ⊆ readings.rows :=
    List.Subset.trans (List.take_subset _ _) hpage
  have hnumbers : s.numbers readingsPage "level" = [3, 10] := by decide +kernel
  have hcount : result.count = 2 := by
    rw [count_column]
    decide +kernel
  have hcount' : (s.column missedPage "level" kind none).count = 0 := by
    rw [count_column]
    decide +kernel
  -- one page has numbers, the other has none
  obtain ⟨-, -, -, hsome, -⟩ :=
    (measures_of_inferred settings readings "level" hfree hpage none).1 hkind
  obtain ⟨-, -, -, -, hnone⟩ :=
    (measures_of_inferred settings readings "level" hfree hmissed none).1 hkind
  obtain ⟨hmean, hmeasures⟩ := hsome (by rw [hcount]; decide)
  refine ⟨⟨hfree, hkind, hpage, hmissed⟩, hcount, ?_, hmeasures, hnone hcount'⟩
  rw [hmean, hnumbers, hcount]
  decide +kernel

end Statistician

end Tabula

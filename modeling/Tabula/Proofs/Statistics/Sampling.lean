import Tabula.Proofs.Statistics.Median
import Tabula.Proofs.Statistics.Passes
import Tabula.Proofs.Statistics.Strides

/-!
# What the median of a column is taken from

Up to a limit, the median of a column is taken from all of its numbers, and is their only median
(`median_within_limit`). Beyond it, the second pass keeps the numbers at the multiples of a stride,
and forgets the others (`sample_beyond_limit`): `numbers` is what there is to keep, and `sample`
what has been kept in the end.

With fewer than twice as many numbers as the limit, the stride is still one. Nothing is left out,
but the statistics say that the median comes from a sample (`hasSampledMedian_iff_thinned`).
-/

namespace Tabula

/-- What the note of the statistics says of the median: from how many numbers it was taken, and how
many there are. -/
def ColumnStatistics.medianSample? (result : ColumnStatistics) : Option (Nat × Nat) :=
  result.omission.bind Omission.medianSample

theorem ColumnStatistics.hasSampledMedian_eq (result : ColumnStatistics) :
    result.hasSampledMedian = result.medianSample?.isSome := by
  rw [hasSampledMedian, medianSample?]
  cases result.omission <;> rfl

namespace Statistician

variable (s : Statistician) (rows : List Row) (column : String)

/-! ### What the second pass keeps -/

/-- The values of a column that read as numbers, as these numbers, in the order of the rows. -/
def numbers : List Float :=
  (s.values rows column).filterMap Cell.number?

/-- The numbers that the second pass keeps for the median of a numeric column. -/
def sample : List Float :=
  let t := s.tally rows column true
  (s.spread rows column (t.sum / asFloat t.numbers) (s.stride t.numbers)).sample.reverse

theorem Tally.numbers_ofValues (values : List Cell) :
    (Tally.ofValues true values).numbers = (values.filterMap Cell.number?).length := by
  induction values using List.reverseRecOn with
  | nil => rfl
  | append_singleton values c ih =>
    rw [Tally.ofValues, List.foldl_concat, ← Tally.ofValues, List.filterMap_append,
      List.length_append, ← ih]
    cases h : c.number? <;> simp [Tally.withValue, Tally.withNumber, h]

/-- The first pass counts the numbers that the second one meets. -/
theorem numbers_tally : (s.tally rows column true).numbers = (s.numbers rows column).length := by
  rw [tally_eq, Tally.numbers_ofValues, numbers]

/-- Takes in a number. -/
def Spread.withNumber (mean : Float) (stride : Nat) (acc : Spread) (x : Float) : Spread where
  squares := acc.squares + (x - mean) * (x - mean)
  sample := if acc.seen % stride = 0 then x :: acc.sample else acc.sample
  seen := acc.seen + 1

/-- What the second pass gathers from some numbers. -/
def Spread.ofNumbers (mean : Float) (stride : Nat) (numbers : List Float) : Spread :=
  numbers.foldl (Spread.withNumber mean stride) {}

/-- The second pass skips the cells that are missing or no numbers. -/
theorem foldl_addSpread (mean : Float) (stride : Nat) (acc : Spread) (cells : List Cell) :
    cells.foldl (s.addSpread mean stride) acc =
      ((cells.filter (!s.missing.isMissing ·)).filterMap Cell.number?).foldl
        (Spread.withNumber mean stride) acc := by
  induction cells generalizing acc with
  | nil => rfl
  | cons c cells ih =>
    rw [List.foldl_cons, ih, addSpread]
    by_cases hc : s.missing.isMissing c = true
    · rw [if_pos hc, List.filter_cons_of_neg (by simpa using hc)]
    · rw [if_neg hc, List.filter_cons_of_pos (by simpa using hc)]
      cases hx : c.number? with
      | none => rw [List.filterMap_cons_none hx]
      | some x =>
        rw [List.filterMap_cons_some hx, List.foldl_cons]
        rfl

theorem spread_eq (mean : Float) (stride : Nat) :
    s.spread rows column mean stride =
      Spread.ofNumbers mean stride (s.numbers rows column) := by
  rw [spread, foldCells_eq, foldl_addSpread]
  rfl

theorem Spread.seen_ofNumbers (mean : Float) (stride : Nat) (numbers : List Float) :
    (Spread.ofNumbers mean stride numbers).seen = numbers.length := by
  induction numbers using List.reverseRecOn with
  | nil => rfl
  | append_singleton numbers x ih =>
    rw [ofNumbers, List.foldl_concat, ← ofNumbers, withNumber, ih, List.length_append,
      List.length_singleton]

/-- A number is kept when the numbers before it make up whole strides. -/
theorem Spread.sample_ofNumbers (mean : Float) (stride : Nat) (numbers : List Float) :
    (Spread.ofNumbers mean stride numbers).sample.reverse = everyNth stride numbers := by
  induction numbers using List.reverseRecOn with
  | nil => rfl
  | append_singleton numbers x ih =>
    rw [ofNumbers, List.foldl_concat, ← ofNumbers, withNumber, seen_ofNumbers, everyNth_concat,
      apply_ite List.reverse, List.reverse_cons, ih]

theorem length_numbers_le : (s.numbers rows column).length ≤ (s.values rows column).length :=
  List.length_filterMap_le _ _

theorem numbers_perm {rows' : List Row} (h : rows'.Perm rows) :
    (s.numbers rows' column).Perm (s.numbers rows column) :=
  (s.values_perm rows column h).filterMap _

/-- The numbers that are kept stand at the multiples of the stride. -/
theorem sample_eq :
    s.sample rows column =
      everyNth (s.stride (s.numbers rows column).length) (s.numbers rows column) := by
  rw [sample, spread_eq, Spread.sample_ofNumbers, numbers_tally]

/-! ### The stride -/

variable {n : Nat}

theorem stride_of_le (h : n ≤ s.exactMedianLimit) : s.stride n = 1 :=
  if_pos h

theorem stride_of_lt (h : s.exactMedianLimit < n) : s.stride n = n / s.exactMedianLimit := by
  have hpos : 0 < n / s.exactMedianLimit := Nat.div_pos h.le s.exactMedianLimit_pos
  rw [stride, if_neg (Nat.not_le.2 h)]
  omega

/-- Up to the limit, nothing is left out. -/
theorem sample_of_le (h : (s.numbers rows column).length ≤ s.exactMedianLimit) :
    s.sample rows column = s.numbers rows column := by
  rw [sample_eq, stride_of_le s h, everyNth_one]

theorem sample_of_lt (h : s.exactMedianLimit < (s.numbers rows column).length) :
    s.sample rows column =
      everyNth ((s.numbers rows column).length / s.exactMedianLimit) (s.numbers rows column) := by
  rw [sample_eq, stride_of_lt s h]

theorem sublist_sample : (s.sample rows column).Sublist (s.numbers rows column) := by
  rw [sample_eq]
  exact everyNth_sublist _ _

/-- Numbers are left out when there are twice as many as the limit. -/
theorem length_sample_lt_iff :
    (s.sample rows column).length < (s.numbers rows column).length ↔
      2 * s.exactMedianLimit ≤ (s.numbers rows column).length := by
  have hpos := s.exactMedianLimit_pos
  rw [sample_eq]
  generalize s.numbers rows column = numbers
  by_cases hlarge : 2 * s.exactMedianLimit ≤ numbers.length
  · have hlimit : s.exactMedianLimit < numbers.length := by omega
    have hfew := ceilDiv_div_le hpos hlimit
    rw [s.stride_of_lt hlimit, length_everyNth (Nat.div_pos hlimit.le hpos)]
    omega
  · -- the stride is one, be it beyond the limit or not
    have hone : s.stride numbers.length = 1 := by
      by_cases hlimit : numbers.length ≤ s.exactMedianLimit
      · exact s.stride_of_le hlimit
      · rw [s.stride_of_lt (Nat.lt_of_not_le hlimit), Nat.div_eq_iff hpos]
        omega
    rw [hone, everyNth_one]
    omega

/-! ### The result -/

/-- A note that says nothing is left out of the result, and with it nothing is lost. -/
theorem bind_medianSample (note : Omission) :
    (if note = {} then none else some note).bind Omission.medianSample = note.medianSample := by
  split
  · next h => rw [h]; rfl
  · rfl

theorem withNumbers_tally (result : ColumnStatistics) :
    (s.withNumbers rows column (s.tally rows column true) result).1.median =
        median? (s.sample rows column) ∧
      (s.withNumbers rows column (s.tally rows column true) result).2 =
        if s.exactMedianLimit < (s.numbers rows column).length
        then some ((s.sample rows column).length, (s.numbers rows column).length) else none := by
  rw [← numbers_tally]
  exact ⟨rfl, rfl⟩

/-- The median of a numeric column is that of the sample, and the sample is noted when there are
more numbers than the limit. -/
theorem median_column (kind : ColumnKind) (total : Option Nat) :
    (s.column rows column kind total).median =
        (if kind = .numeric ∧ 0 < (s.numbers rows column).length
          then median? (s.sample rows column) else none) ∧
      (s.column rows column kind total).medianSample? =
        if kind = .numeric ∧ s.exactMedianLimit < (s.numbers rows column).length
        then some ((s.sample rows column).length, (s.numbers rows column).length) else none := by
  rw [ColumnStatistics.medianSample?, Statistician.column]
  by_cases hkind : kind = .numeric
  · subst hkind
    obtain ⟨hmedian, hnoted⟩ := forall_and.1 (s.withNumbers_tally rows column)
    simp only [decide_true, true_and]
    split
    · next hcount =>
      -- without values there are no numbers either
      have hvalues : (s.values rows column).length = 0 := by
        rw [← hcount, tally_eq, Tally.count_ofValues]
      have hnone : (s.numbers rows column).length = 0 :=
        Nat.le_zero.1 (hvalues ▸ s.length_numbers_le rows column)
      simp [hnone]
    · rw [numbers_tally]
      by_cases hpos : 0 < (s.numbers rows column).length
      · simp only [hpos, if_true, hmedian, hnoted, bind_medianSample, and_self]
      · have hlimit : ¬ s.exactMedianLimit < (s.numbers rows column).length := by omega
        simp only [hpos, hlimit, if_false, bind_medianSample, and_self]
  · simp only [hkind, decide_false, false_and, if_false]
    split
    · exact ⟨rfl, rfl⟩
    · exact ⟨rfl, bind_medianSample _⟩

/-- **The median of a small column.** The median of a numeric column with numbers, but no more of
them than the limit, is the one median of all its numbers, and no sample is noted. However the rows
are arranged, it is the same, and so are the counts of values, of missing cells and of different
texts. -/
theorem median_within_limit (total : Option Nat) (hpos : 0 < (s.numbers rows column).length)
    (hlimit : (s.numbers rows column).length ≤ s.exactMedianLimit) :
    let result := s.column rows column .numeric total
    (∃ m, result.median = some m ∧ ∀ m', IsMedian (s.numbers rows column) m' ↔ m' = m) ∧
      result.medianSample? = none ∧
      ∀ rows', rows'.Perm rows →
        let result' := s.column rows' column .numeric total
        result'.median = result.median ∧ result'.count = result.count ∧
          result'.missingCount = result.missingCount ∧
          result'.uniqueCount = result.uniqueCount := by
  intro result
  -- whatever the order of the rows, the sample holds all of the numbers
  have hcolumn {rows' : List Row} (hnumbers : (s.numbers rows' column).Perm
      (s.numbers rows column)) :
      (s.column rows' column .numeric total).median = median? (s.numbers rows column) ∧
        (s.column rows' column .numeric total).medianSample? = none := by
    obtain ⟨hmedian, hnoted⟩ := s.median_column rows' column .numeric total
    have hlength := hnumbers.length_eq
    rw [if_pos ⟨rfl, by omega⟩, s.sample_of_le rows' column (by omega),
      median?_eq_of_perm hnumbers] at hmedian
    rw [if_neg (by omega)] at hnoted
    exact ⟨hmedian, hnoted⟩
  obtain ⟨hmedian, hnoted⟩ := hcolumn (List.Perm.refl _)
  refine ⟨?_, hnoted, fun rows' hperm => ⟨?_, s.counts_column_of_perm rows column hperm _ total⟩⟩
  · obtain ⟨m, hm⟩ := exists_isMedian (List.length_pos_iff.1 hpos)
    refine ⟨m, hmedian.trans hm.median?_eq_some, fun m' => ?_⟩
    rw [← median?_eq_some_iff, hm.median?_eq_some, Option.some.injEq, eq_comm]
  · rw [hmedian]
    exact (hcolumn (s.numbers_perm rows column hperm)).1

/-- A column with seven numbers, written in several ways, and cells between them that are none. -/
def sevenNumbers : List Row :=
  [⟨[("x", .number 5)], by simp⟩, ⟨[("x", .text "N/A")], by simp⟩, ⟨[("x", .text "7")], by simp⟩,
    ⟨[("x", .text "old")], by simp⟩, ⟨[("x", .number 1)], by simp⟩, ⟨[("x", .text "9e0")], by simp⟩,
    ⟨[("x", .null)], by simp⟩, ⟨[("x", .text " 3 ")], by simp⟩, ⟨[("x", .number 8)], by simp⟩,
    ⟨[("x", .number 2)], by simp⟩]

/-- The median of the seven numbers is five, and stays so when the rows are turned round. Without
the first one, it is halfway between three and seven. -/
theorem median_within_limit_sevenNumbers :
    let s : Statistician := .ofSettings {}
    (0 < (s.numbers sevenNumbers "x").length ∧
        (s.numbers sevenNumbers "x").length ≤ s.exactMedianLimit) ∧
      (s.column sevenNumbers "x" .numeric none).median = some 5 ∧
      (s.column sevenNumbers.reverse "x" .numeric none).median = some 5 ∧
      (s.column sevenNumbers.tail "x" .numeric none).median = some ((3 + 7) / 2.0) := by
  intro s
  have hseven : s.numbers sevenNumbers "x" = [5, 7, 1, 9, 3, 8, 2] := by decide +kernel
  have hsix : s.numbers sevenNumbers.tail "x" = [7, 1, 9, 3, 8, 2] := by decide +kernel
  have hrange : 0 < (s.numbers sevenNumbers "x").length ∧
      (s.numbers sevenNumbers "x").length ≤ s.exactMedianLimit := by
    rw [hseven]
    decide
  have hrange' : 0 < (s.numbers sevenNumbers.tail "x").length ∧
      (s.numbers sevenNumbers.tail "x").length ≤ s.exactMedianLimit := by
    rw [hsix]
    decide
  -- an odd number of them has one in the middle, an even number has two
  have hmiddle : IsMedian (s.numbers sevenNumbers "x") 5 := by
    rw [hseven]
    refine @IsMedian.middle _ [1, 2, 3] [7, 8, 9] 5 (by simp) ?_ ?_
    · unfold Ordered
      decide +kernel
    · decide +kernel
  have hhalfSum : IsMedian (s.numbers sevenNumbers.tail "x") ((3 + 7) / 2.0) := by
    rw [hsix]
    refine @IsMedian.halfSum _ [1, 2] [8, 9] 3 7 (by simp) ?_ ?_
    · unfold Ordered
      decide +kernel
    · decide +kernel
  -- there is only one median, so the one computed is the one found
  obtain ⟨⟨m, hm, honly⟩, -, hperm⟩ := s.median_within_limit sevenNumbers "x" none hrange.1 hrange.2
  obtain ⟨⟨m', hm', honly'⟩, -⟩ :=
    s.median_within_limit sevenNumbers.tail "x" none hrange'.1 hrange'.2
  rw [← (honly 5).1 hmiddle] at hm
  rw [← (honly' _).1 hhalfSum] at hm'
  exact ⟨hrange, hm, (hperm _ (List.reverse_perm _)).1.trans hm, hm'⟩

/-- **The sample of a large column.** Of more numbers than the limit, those at the multiples of the
stride are kept, which is the number of numbers divided by the limit and rounded down. There are as
many of them as there are strides, begun ones included: as many as the limit at least, and fewer
than twice as many. The median is theirs, and the note of the statistics says how many they are, and
of how many. -/
theorem sample_beyond_limit (total : Option Nat)
    (hlimit : s.exactMedianLimit < (s.numbers rows column).length) :
    let numbers := s.numbers rows column
    let sample := s.sample rows column
    let stride := numbers.length / s.exactMedianLimit
    let result := s.column rows column .numeric total
    (∀ k, sample[k]? = numbers[stride * k]?) ∧
      sample.length = numbers.length ⌈/⌉ stride ∧
      s.exactMedianLimit ≤ sample.length ∧ sample.length ≤ 2 * s.exactMedianLimit - 1 ∧
      result.median = median? sample ∧
      result.medianSample? = some (sample.length, numbers.length) := by
  intro numbers sample stride result
  have hpos := s.exactMedianLimit_pos
  have hstride : 0 < stride := Nat.div_pos hlimit.le hpos
  have hsample : sample = everyNth stride numbers := s.sample_of_lt rows column hlimit
  have hlength : sample.length = numbers.length ⌈/⌉ stride := by
    rw [hsample, length_everyNth hstride]
  obtain ⟨hmedian, hnoted⟩ := s.median_column rows column .numeric total
  rw [if_pos ⟨rfl, by omega⟩] at hmedian
  rw [if_pos ⟨rfl, hlimit⟩] at hnoted
  refine ⟨fun k => ?_, hlength, ?_, ?_, hmedian, hnoted⟩
  · rw [hsample, getElem?_everyNth hstride]
  · rw [hlength]
    exact le_ceilDiv_div hpos hlimit
  · rw [hlength]
    exact ceilDiv_div_le hpos hlimit

/-- A statistician that takes exact medians of two numbers at most. -/
def upToTwo : Statistician :=
  .ofSettings { exactMedianLimit := 2 }

/-- Of seven numbers with a limit of two, the stride is three, and three numbers are kept. -/
theorem sample_beyond_limit_sevenNumbers :
    upToTwo.exactMedianLimit < (upToTwo.numbers sevenNumbers "x").length ∧
      (upToTwo.sample sevenNumbers "x")[1]? = some 9 ∧
      (upToTwo.sample sevenNumbers "x").length = 3 ∧
      (upToTwo.column sevenNumbers "x" .numeric none).medianSample? = some (3, 7) := by
  have hnumbers : upToTwo.numbers sevenNumbers "x" = [5, 7, 1, 9, 3, 8, 2] := by decide +kernel
  have hlimit : upToTwo.exactMedianLimit < (upToTwo.numbers sevenNumbers "x").length := by
    rw [hnumbers]
    decide
  obtain ⟨hkept, hlength, -, -, -, hnoted⟩ := sample_beyond_limit _ _ _ none hlimit
  rw [hnumbers] at hkept hlength hnoted
  rw [hlength] at hnoted
  exact ⟨hlimit, hkept 1, hlength, hnoted⟩

/-- **When a sampled median is flagged.** The statistics of a numeric column with more numbers than
the limit say that the median comes from a sample. But numbers are left out only from twice as many
on: so the flag is wrong exactly where the limit is exceeded, but not by a whole limit. There all
numbers have been kept, and the note says so. -/
theorem hasSampledMedian_iff_thinned (kind : ColumnKind) (total : Option Nat) :
    let limit := s.exactMedianLimit
    let numbers := s.numbers rows column
    let sample := s.sample rows column
    let result := s.column rows column kind total
    (result.hasSampledMedian = true ↔ kind = .numeric ∧ limit < numbers.length) ∧
      sample.Sublist numbers ∧
      (sample.length < numbers.length ↔ 2 * limit ≤ numbers.length) ∧
      ((result.hasSampledMedian = true ↔ kind = .numeric ∧ sample.length < numbers.length) ↔
        ¬ (kind = .numeric ∧ limit < numbers.length ∧ numbers.length < 2 * limit)) ∧
      result.median =
        (if kind = .numeric ∧ 0 < numbers.length then median? sample else none) ∧
      result.medianSample? =
        if kind = .numeric ∧ limit < numbers.length
        then some (sample.length, numbers.length) else none := by
  intro limit numbers sample result
  have hpos : 0 < limit := s.exactMedianLimit_pos
  obtain ⟨hmedian, hnoted⟩ := s.median_column rows column kind total
  have hflag : result.hasSampledMedian = true ↔ kind = .numeric ∧ limit < numbers.length := by
    rw [ColumnStatistics.hasSampledMedian_eq, hnoted]
    split
    · next h => exact iff_of_true rfl h
    · next h => exact iff_of_false Bool.false_ne_true h
  have hthinned : sample.length < numbers.length ↔ 2 * limit ≤ numbers.length :=
    s.length_sample_lt_iff rows column
  refine ⟨hflag, s.sublist_sample rows column, hthinned, ?_, hmedian, hnoted⟩
  rw [hflag, hthinned]
  by_cases hkind : kind = .numeric
  · simp only [hkind, true_and]
    omega
  · simp only [hkind, false_and, not_false_eq_true]

/-- A column of three numbers. -/
def threeNumbers : List Row :=
  [⟨[("x", .number 0)], by simp⟩, ⟨[("x", .number 1)], by simp⟩, ⟨[("x", .number 2)], by simp⟩]

/-- With a limit of two, a median of three numbers is flagged as one of a sample, although the
sample holds all three. -/
theorem flagged_threeNumbers :
    (upToTwo.column threeNumbers "x" .numeric none).hasSampledMedian = true ∧
      upToTwo.sample threeNumbers "x" = upToTwo.numbers threeNumbers "x" ∧
      (upToTwo.column threeNumbers "x" .numeric none).medianSample? = some (3, 3) := by
  have hnumbers : upToTwo.numbers threeNumbers "x" = [0, 1, 2] := by decide +kernel
  have hsample : upToTwo.sample threeNumbers "x" = [0, 1, 2] := by
    rw [sample_eq, hnumbers]
    decide +kernel
  obtain ⟨-, hnoted⟩ := upToTwo.median_column threeNumbers "x" .numeric none
  rw [hnumbers, hsample] at hnoted
  exact ⟨by rw [ColumnStatistics.hasSampledMedian_eq, hnoted]; rfl, hsample.trans hnumbers.symm,
    hnoted⟩

end Statistician

end Tabula

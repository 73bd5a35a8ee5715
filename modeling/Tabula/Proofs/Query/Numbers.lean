import Tabula.Proofs.Cell.Numbers
import Tabula.Proofs.Decimal.Numeral
import Tabula.Proofs.Query.Partition

/-!
# Queries that ask for numbers

A query may compare a column with a number. Between numbers the order is that of their values, and
a cell that does not read as a number, be it blank, a date or another text, comes after all numbers.
So a query for what is below a number keeps numbers only, but one for what is above a number keeps
all that is not a number besides (`kept_of_number`).

A numeral is an operand that is read as it is written: it has no signs of comparison in it and no
quotation marks around it (`number?_operand`, `not_mem_of_number?`).
-/

namespace Tabula

open Decimal (value ZerosAgree)

namespace Comparison

variable {cell operand : Cell} {x y : Float}

theorem holds_above_iff (hcell : cell.number? = some y) (hoperand : operand.number? = some x)
    (hzeros : ZerosAgree y x) : above.holds cell operand = true ↔ value x < value y := by
  rw [holds, (Cell.compare_eq_compare_value_iff hcell hoperand).2 hzeros, Ordering.isGT_iff_eq_gt,
    compare_gt_iff_gt]

theorem holds_below_iff (hcell : cell.number? = some y) (hoperand : operand.number? = some x)
    (hzeros : ZerosAgree y x) : below.holds cell operand = true ↔ value y < value x := by
  rw [holds, (Cell.compare_eq_compare_value_iff hcell hoperand).2 hzeros, Ordering.isLT_iff_eq_lt,
    compare_lt_iff_lt]

end Comparison

namespace Query

variable {operand : String} {x : Float}

theorem unmarked_eq_self {s : List Char} (h : ∀ c ∈ s, isMark c = false) : unmarked s = s := by
  have hdrop : ∀ t : List Char, (∀ c ∈ t, isMark c = false) → t.dropWhile isMark = t := by
    intro t ht
    cases t with
    | nil => rfl
    | cons c t => rw [List.dropWhile_cons_of_neg (by simp [ht])]
  rw [unmarked, hdrop s h, hdrop s.reverse (by simpa using h), List.reverse_reverse]

theorem isNumeral_of_number? (h : (Cell.text operand).number? = some x) :
    ∀ c ∈ Text.trimmed operand, Decimal.isNumeral c = true := by
  rw [Cell.number?, Decimal.readFinite?] at h
  exact Decimal.isNumeral_of_read? (Option.filter_eq_some_iff.1 h).1

/-- No sign of comparison stands in a numeral. -/
theorem not_mem_of_number? (h : (Cell.text operand).number? = some x) :
    ∀ c ∈ ['<', '>', '='], c ∉ operand.toList := by
  intro c hc hmem
  have hsign : Text.isBlank c = false ∧ Decimal.isNumeral c = false := by
    simp only [List.mem_cons, List.not_mem_nil, or_false] at hc
    rcases hc with rfl | rfl | rfl <;> decide
  have hnumeral := isNumeral_of_number? h c ((Text.mem_trim_iff hsign.1).2 hmem)
  rw [hsign.2] at hnumeral
  exact absurd hnumeral (by decide)

/-- A numeral that is taken for an operand is still the same numeral. -/
theorem number?_operand (h : (Cell.text operand).number? = some x) :
    (Cell.text (String.ofList (unmarked (Text.trimmed operand)))).number? = some x := by
  have hmark : ∀ c ∈ Text.trimmed operand, isMark c = false := by
    intro c hc
    have hnumeral := isNumeral_of_number? h c hc
    rw [← Bool.not_eq_true, isMark, Bool.or_eq_true, decide_eq_true_eq, decide_eq_true_eq]
    rintro (rfl | rfl) <;> exact absurd hnumeral (by decide)
  rw [unmarked_eq_self hmark, ← h, Cell.number?, Cell.number?, Text.trimmed, String.toList_ofList,
    Text.trimmed, Text.trim_trim]

end Query

/-- **Queries for numbers.** Let an operand read as a number, and let no sign of comparison stand in
the name of a column. A query compares what the dataset has under that name without the blanks at
its ends, and fails if it has nothing. A row whose cell reads as a number is kept exactly if the
value of that number stands in the relation to the value of the operand, unless they are the two
zeros. A row whose cell does not read as a number is never kept by a query for what is below the
operand, and always by one for what is above it. -/
theorem Query.kept_of_number {d : Dataset} {column named operand : String} {x : Float}
    (hnumber : (Cell.text operand).number? = some x)
    (hcolumn : ∀ c ∈ ['<', '>', '='], c ∉ column.toList)
    (hnamed : Text.trimmed column = named.toList) :
    (named ∉ d.columns → ∀ k ∈ [Comparison.above, .atLeast, .below, .atMost],
      run d (column ++ " " ++ k.name ++ " " ++ operand) = .error (.unknownColumn d.columns)) ∧
    (named ∈ d.columns → ∃ kept : Comparison → Dataset,
      (∀ k ∈ [Comparison.above, .atLeast, .below, .atMost], ∃ description,
        run d (column ++ " " ++ k.name ++ " " ++ operand) = .ok (kept k, description) ∧
          (kept k).rows.Sublist d.rows) ∧
      (∀ row ∈ d.rows, ∀ y, (Row.cell row named).number? = some y → ZerosAgree y x →
        (row ∈ (kept .above).rows ↔ value x < value y) ∧
        (row ∈ (kept .atLeast).rows ↔ value x ≤ value y) ∧
        (row ∈ (kept .below).rows ↔ value y < value x) ∧
        (row ∈ (kept .atMost).rows ↔ value y ≤ value x)) ∧
      (∀ row ∈ d.rows, (Row.cell row named).number? = none →
        row ∈ (kept .above).rows ∧ row ∈ (kept .atLeast).rows ∧
        row ∉ (kept .below).rows ∧ row ∉ (kept .atMost).rows)) := by
  let query (k : Comparison) : Query :=
    { column := named
      comparison := k
      operand := String.ofList (unmarked (Text.trimmed operand)) }
  -- each of the four texts is read as written: the operand has no sign in it, and nor has the
  -- column
  have hread (k : Comparison) (hk : k ∈ [Comparison.above, .atLeast, .below, .atMost]) :
      parse? (column ++ " " ++ k.name ++ " " ++ operand) = some (query k) := by
    have horder : k ≠ .contains := by
      rintro rfl
      exact absurd hk (by decide)
    rw [parse?_eq_some horder hcolumn (not_mem_of_number? hnumber), hnamed, String.ofList_toList]
  have hoperand := number?_operand hnumber
  -- what is left is to run these queries
  constructor
  · intro hd k hk
    have hisColumn : d.isColumn named = false := by simpa [Dataset.isColumn] using hd
    rw [run, hread k hk]
    simp only [query, hisColumn]
    rfl
  · intro hd
    have hisColumn : d.isColumn named = true := by simpa [Dataset.isColumn] using hd
    -- a row is kept if its cell stands in the relation to the operand
    have hmem (k : Comparison) {row : Row} (hrow : row ∈ d.rows) :
        row ∈ ((query k).select d).rows ↔
          k.holds (Row.cell row named)
            (.text (String.ofList (unmarked (Text.trimmed operand)))) = true :=
      mem_rows_select.trans (and_iff_right hrow)
    refine ⟨fun k => (query k).select d, fun k hk => ⟨(query k).description, ?_, ?_⟩, ?_, ?_⟩
    · exact run_eq_ok_iff.2 ⟨query k, hread k hk, hisColumn, rfl⟩
    · exact List.filter_sublist
    · -- a number is above or below by its value, and the other two relations are the negations
      intro row hrow y hy hzeros
      have habove := Comparison.holds_above_iff hy hoperand hzeros
      have hbelow := Comparison.holds_below_iff hy hoperand hzeros
      simp only [hmem _ hrow, Comparison.holds_atLeast, Comparison.holds_atMost,
        Bool.not_eq_true', ← not_lt]
      refine ⟨habove, ?_, hbelow, ?_⟩
      · rw [← hbelow, Bool.not_eq_true]
      · rw [← habove, Bool.not_eq_true]
    · -- what is no number comes behind all numbers
      intro row hrow hnone
      have hgt := Cell.compare_eq_gt_of_number?_eq_none hnone hoperand
      simp [hmem _ hrow, Comparison.holds, hgt]

/-- Of the readings, a query for what is above 30 keeps the two that are not numbers, and one for
what is below 30 the number alone. -/
theorem Query.kept_of_number_readings : ∃ above below,
    run readings "age > 30" = .ok above ∧ run readings "age < 30" = .ok below ∧
      (∀ row ∈ readings.rows, Row.cell row "age" = .number 18 →
        row ∉ above.1.rows ∧ row ∈ below.1.rows) ∧
      ∀ row ∈ readings.rows, (Row.cell row "age").number? = none →
        row ∈ above.1.rows ∧ row ∉ below.1.rows := by
  -- the values of the two numbers
  have hvalue : value 30 = 30 := by
    have hdecode : Decimal.decode 30 = .finite false ⟨8444249301319680, -48, false⟩ := by
      decide +kernel
    rw [value, hdecode]
    norm_num [Decimal.Decoded.value, Decimal.Binary.value]
  have hvalue' : value 18 = 18 := by
    have hdecode : Decimal.decode 18 = .finite false ⟨5066549580791808, -48, false⟩ := by
      decide +kernel
    rw [value, hdecode]
    norm_num [Decimal.Decoded.value, Decimal.Binary.value]
  have hzeros : ZerosAgree 18 30 := by
    intro hzero
    rw [hvalue'] at hzero
    exact absurd hzero (by norm_num)
  -- what a query on ages has to fulfil
  have hnumber : (Cell.text "30").number? = some 30 := by decide +kernel
  have hcolumn : ∀ c ∈ ['<', '>', '='], c ∉ "age".toList := by simp
  have hnamed : Text.trimmed "age" = "age".toList := by decide
  obtain ⟨kept, hrun, hnumbers, hothers⟩ :=
    (kept_of_number (d := readings) hnumber hcolumn hnamed).2 (by decide)
  obtain ⟨_, habove, -⟩ := hrun .above (by decide)
  obtain ⟨_, hbelow, -⟩ := hrun .below (by decide)
  -- the number by its value, the other cells whatever the operand
  refine ⟨_, _, habove, hbelow, ?_, ?_⟩
  · intro row hrow hcell
    have hread : (Row.cell row "age").number? = some 18 := by
      rw [hcell]
      decide +kernel
    obtain ⟨h, -, h', -⟩ := hnumbers row hrow 18 hread hzeros
    rw [h, h', hvalue, hvalue']
    norm_num
  · intro row hrow hnone
    obtain ⟨h, -, h', -⟩ := hothers row hrow hnone
    exact ⟨h, h'⟩

/-- A text and an empty cell are kept by a query for numbers above 30. -/
theorem Query.strays_above_readings :
    (Query.run readings "age > 30").map (fun kept => kept.1.rows.map (Row.cell · "age")) =
      .ok [.text "old", .null] := by
  decide +kernel

end Tabula

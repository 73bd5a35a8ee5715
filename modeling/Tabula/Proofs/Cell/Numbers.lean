import Tabula.Proofs.Decimal.Value
import Tabula.Proofs.Sort.Stable
import Tabula.Query

/-!
# Cells that read as numbers

Cells that read as numbers are compared by the values of the numbers, however the cells write them,
with one exception: a negative zero comes before zero, though both have the value zero. But for the
two zeros, then, a filter for equality keeps all rows whose numbers have the value that is asked for,
and a sort keeps rows whose numbers have one value in the order in which they stood
(`Cell.numbers_in_order`). A text like `-0` makes the exception show (`Cell.zeros_apart`).
-/

namespace Tabula

open Decimal (value isNegative ZerosAgree)

namespace Cell

variable {a b : Cell} {x y : Float}

/-- Cells read as finite numbers only. -/
theorem isFinite_of_number? (h : a.number? = some x) : x.isFinite = true := by
  cases a with
  | null => exact absurd h (by simp [number?])
  | bool truth => exact absurd h (by simp [number?])
  | number z =>
    rw [number?] at h
    split at h
    · next hfinite =>
      rw [← Option.some.inj h]
      exact hfinite
    · exact absurd h (by simp)
  | text s =>
    rw [number?, Decimal.readFinite?] at h
    exact (Option.filter_eq_some_iff.1 h).2

theorem compare_eq_totalCompare (ha : a.number? = some x) (hb : b.number? = some y) :
    a.compare b = Decimal.totalCompare x y := by
  rw [compare, SortKey.ofCell, SortKey.ofCell, ha, hb]
  rfl

/-- What does not read as a number comes after all that does. -/
theorem compare_eq_gt_of_number?_eq_none (ha : a.number? = none) (hb : b.number? = some y) :
    a.compare b = .gt := by
  rw [compare, SortKey.ofCell, SortKey.ofCell, ha, hb]
  cases a.moment? with
  | some _ => rfl
  | none => cases hblank : a.isBlank <;> rfl

/-- The order is that of the values, unless the numbers are the two zeros. -/
theorem compare_eq_compare_value_iff (ha : a.number? = some x) (hb : b.number? = some y) :
    a.compare b = Ord.compare (value x) (value y) ↔ ZerosAgree x y := by
  rw [compare_eq_totalCompare ha hb]
  exact Decimal.totalCompare_eq_iff (isFinite_of_number? ha) (isFinite_of_number? hb)

/-- Numbers are equal as cells if they have the same value, unless they are the two zeros. -/
theorem compare_eq_eq_iff (ha : a.number? = some x) (hb : b.number? = some y)
    (hzeros : ZerosAgree x y) : a.compare b = .eq ↔ value x = value y := by
  rw [(compare_eq_compare_value_iff ha hb).2 hzeros, compare_eq_iff_eq]

end Cell

/-- **Numbers in order.** Two cells that read as numbers are compared as the values of the numbers
are, exactly if they are not the two zeros. If they are not, then a filter of a column for what is
equal to the one has a result, which keeps a row with the other exactly if they have the same value;
and if they have, every sort, in either direction, leaves the rows with the one or the other in the
order in which they stood. -/
theorem Cell.numbers_in_order {a b : Cell} {x y : Float} (ha : a.number? = some x)
    (hb : b.number? = some y) :
    (a.compare b = Ord.compare (value x) (value y) ↔ ZerosAgree x y) ∧
    (ZerosAgree x y →
      (∀ {d : Dataset} {text : String} {q : Query},
        Query.parse? text = some q → q.comparison = .equals → Cell.text q.operand = b →
        d.isColumn q.column = true →
          ∃ kept description, Query.run d text = .ok (kept, description) ∧
            ∀ row ∈ d.rows, Row.cell row q.column = a → (row ∈ kept.rows ↔ value x = value y)) ∧
      (value x = value y → ∀ (d : Dataset) (column : String) (direction : Direction),
        (d.sorted column direction).rows.filter
            (fun row => Row.cell row column = a ∨ Row.cell row column = b) =
          d.rows.filter fun row => Row.cell row column = a ∨ Row.cell row column = b)) := by
  refine ⟨compare_eq_compare_value_iff ha hb, ?_⟩
  intro hzeros
  have hcompare := compare_eq_eq_iff ha hb hzeros
  constructor
  · intro d text q hparse hequals hoperand hcolumn
    refine ⟨_, _, Query.run_eq_ok_iff.2 ⟨q, hparse, hcolumn, rfl⟩, ?_⟩
    intro row hrow hcell
    rw [Query.select, Dataset.rows_select, List.mem_filter, Query.keeps, hequals, hcell, hoperand,
      Comparison.holds, Ordering.isEq_iff_eq_eq, hcompare]
    exact and_iff_right hrow
  · intro hvalue d column direction
    have hab := hcompare.2 hvalue
    have hba : b.compare a = .eq := by
      rw [compare_swap, hab]
      rfl
    rw [Dataset.rows_sorted]
    apply filter_mergeSort_of_tied Row.mayPrecede_trans Row.mayPrecede_total
    intro row row' hrow hrow'
    -- the rows of a tie may stand in front of each other, so the sort has no reason to move them
    have htie : (Row.cell row column).compare (Row.cell row' column) = .eq := by
      rcases of_decide_eq_true hrow with h | h <;> rcases of_decide_eq_true hrow' with h' | h' <;>
        rw [h, h']
      · exact Std.ReflCmp.compare_self
      · exact hab
      · exact hba
      · exact Std.ReflCmp.compare_self
    rw [Row.mayPrecede, Cell.arrange_eq_of_compare_eq htie]
    rfl

/-- A column in which two texts write a hundred, in their own ways, with a greater number before and
between them. -/
def hundreds : Dataset where
  columns := ["x"]
  rows := [⟨[("x", .number 250)], by simp⟩, ⟨[("x", .text "1e2")], by simp⟩,
    ⟨[("x", .text "101")], by simp⟩, ⟨[("x", .text " 100.0 ")], by simp⟩]

/-- The two hundreds are equal and less than the other numbers, a filter for a hundred keeps them
both, and a sort keeps them in their order. -/
theorem Cell.numbers_in_order_hundreds :
    (Cell.text "1e2").compare (.text " 100.0 ") = .eq ∧
    (Cell.text "1e2").compare (.number 250) = .lt ∧
    (∃ kept description, Query.run hundreds "x = 100" = .ok (kept, description) ∧
      ∀ row ∈ hundreds.rows, Row.cell row "x" = .text "1e2" → row ∈ kept.rows) ∧
    (hundreds.sorted "x" .descending).rows.filter
        (fun row => Row.cell row "x" = .text "1e2" ∨ Row.cell row "x" = .text " 100.0 ") =
      hundreds.rows.filter fun row =>
        Row.cell row "x" = .text "1e2" ∨ Row.cell row "x" = .text " 100.0 " := by
  -- what the numbers are worth
  have hdecode : Decimal.decode 100 = .finite false ⟨7036874417766400, -46, false⟩ := by
    decide +kernel
  have hdecode' : Decimal.decode 250 = .finite false ⟨8796093022208000, -45, false⟩ := by
    decide +kernel
  have hvalue : value 100 = 100 := by
    rw [value, hdecode]
    norm_num [Decimal.Decoded.value, Decimal.Binary.value]
  have hvalue' : value 250 = 250 := by
    rw [value, hdecode']
    norm_num [Decimal.Decoded.value, Decimal.Binary.value]
  -- what the cells and the operand are read as
  have hfirst : (Cell.text "1e2").number? = some 100 := by decide +kernel
  have hsecond : (Cell.text " 100.0 ").number? = some 100 := by decide +kernel
  have hoperand : (Cell.text "100").number? = some 100 := by decide +kernel
  have hgreat : (Cell.number 250).number? = some 250 := by decide +kernel
  have hagree : ZerosAgree 100 100 := fun _ _ => rfl
  have hagree' : ZerosAgree 100 250 := by
    intro hzero
    rw [hvalue] at hzero
    exact absurd hzero (by norm_num)
  obtain ⟨hcompare, hties⟩ := Cell.numbers_in_order hfirst hsecond
  refine ⟨?_, ?_, ?_, (hties hagree).2 rfl hundreds "x" .descending⟩
  · rw [hcompare.2 hagree, compare_eq_iff_eq]
  · rw [(Cell.numbers_in_order hfirst hgreat).1.2 hagree', compare_lt_iff_lt, hvalue, hvalue']
    norm_num
  · have hparse : Query.parse? "x = 100" = some ⟨"x", .equals, "100"⟩ := by decide +kernel
    have hcolumn : hundreds.isColumn "x" = true := rfl
    obtain ⟨kept, description, hrun, hkept⟩ :=
      ((Cell.numbers_in_order hfirst hoperand).2 hagree).1 hparse rfl rfl hcolumn
    exact ⟨kept, description, hrun, fun row hrow hcell => (hkept row hrow hcell).2 rfl⟩

/-- A column with both zeros. -/
def zeros : Dataset where
  columns := ["x"]
  rows := [⟨[("x", .text "0")], by simp⟩, ⟨[("x", .text "-0")], by simp⟩]

/-- The two zeros have the same value, but `-0` comes before `0`: a filter for zero drops it, and a
sort moves it to the front. -/
theorem Cell.zeros_apart :
    (∃ x y, (Cell.text "-0").number? = some x ∧ (Cell.text "0").number? = some y ∧
      value x = value y) ∧
    (Cell.text "-0").compare (.text "0") = .lt ∧
    (Query.run zeros "x = 0").map (fun kept => kept.1.rows.map (Row.cell · "x")) =
      .ok [.text "0"] ∧
    (zeros.sorted "x" .ascending).rows ≠ zeros.rows := by
  -- a number without any bit but the sign is a zero
  have hvalue : ∀ x : Float, x.isFinite = true → Decimal.unsignedBits x = 0 → value x = 0 := by
    intro x hx hbits
    rw [Decimal.value_eq hx, hbits, Decimal.magnitude_zero, neg_zero, ite_self]
  have hnegative : (Cell.text "-0").number? = some (-0.0) := by decide +kernel
  have hzero : (Cell.text "0").number? = some 0.0 := by decide +kernel
  refine ⟨⟨_, _, hnegative, hzero, ?_⟩, ?_, ?_, ?_⟩
  · rw [hvalue (-0.0) (by decide +kernel) (by decide +kernel),
      hvalue 0.0 (by decide +kernel) (by decide +kernel)]
  · decide +kernel
  · decide +kernel
  · -- left as they are, the rows would be out of order
    intro hstays
    have hsorted := zeros.pairwise_rows_sorted "x" .ascending
    rw [hstays] at hsorted
    have hfront := List.rel_of_pairwise_cons hsorted (List.mem_singleton.2 rfl)
    exact absurd hfront (by decide +kernel)

end Tabula

import Mathlib.Data.List.Basic
import Tabula.Proofs.Query.Reading

/-!
# What comparisons of order select

Of a column and an operand, each row stands in exactly one of three relations: its cell is below the
operand, equal to it, or above it. The other three comparisons of order are the negations of these.
`partition_of_comparisons` says so of the queries that write these comparisons, from their texts to
the rows that they leave; which texts are meant, and that they are read as such, is told by
`parse?_eq_some`.

A query keeps a row or not whatever stands around it, so what it leaves is told by membership alone
(`rows_select_eq_filter`).
-/

namespace Tabula

namespace Comparison

variable (cell operand : Cell)

theorem holds_atLeast : atLeast.holds cell operand = !below.holds cell operand := by
  simp only [holds]
  cases cell.compare operand <;> rfl

theorem holds_atMost : atMost.holds cell operand = !above.holds cell operand := by
  simp only [holds]
  cases cell.compare operand <;> rfl

theorem holds_differs : differs.holds cell operand = !equals.holds cell operand := by
  simp only [holds]
  cases cell.compare operand <;> rfl

/-- The comparison that an ordering is named by. -/
def ofOrdering : Ordering → Comparison
  | .lt => below
  | .eq => equals
  | .gt => above

theorem ofOrdering_mem (o : Ordering) : ofOrdering o ∈ [below, equals, above] := by
  cases o <;> decide

/-- A cell is below, equal to or above an operand as the order of cells says. -/
theorem holds_eq {k : Comparison} (hk : k ∈ [below, equals, above]) :
    k.holds cell operand = decide (k = ofOrdering (cell.compare operand)) := by
  have hcases : k = below ∨ k = equals ∨ k = above := by simpa using hk
  rcases hcases with rfl | rfl | rfl <;> simp only [holds] <;> cases cell.compare operand <;> rfl

theorem existsUnique_holds :
    ∃! k, k ∈ [below, equals, above] ∧ k.holds cell operand = true := by
  refine ⟨ofOrdering (cell.compare operand), ⟨ofOrdering_mem _, ?_⟩, ?_⟩
  · simp [holds_eq cell operand (ofOrdering_mem _)]
  · rintro k ⟨hk, hholds⟩
    simpa [holds_eq cell operand hk] using hholds

end Comparison

namespace Query

variable {d : Dataset} {column operand : String} {q : Query}

theorem mem_rows_select {row : Row} :
    row ∈ (q.select d).rows ↔ row ∈ d.rows ∧ q.keeps row = true :=
  List.mem_filter

/-- What a query leaves are rows of the dataset in their order, each as often as it was there. -/
theorem rows_select_eq_filter (q : Query) (d : Dataset) :
    (q.select d).rows = d.rows.filter (· ∈ (q.select d).rows) := by
  refine List.filter_congr fun row hrow => ?_
  simp [mem_rows_select, hrow]

/-- A query with the negated comparison leaves the other rows. -/
theorem rows_select_eq_filter_not (q q' : Query) (h : ∀ row, q'.keeps row = !q.keeps row)
    (d : Dataset) : (q'.select d).rows = d.rows.filter (· ∉ (q.select d).rows) := by
  refine List.filter_congr fun row hrow => ?_
  simp [mem_rows_select, hrow, h row]

/-- A query leaves what it left. -/
theorem select_select (q : Query) (d : Dataset) : q.select (q.select d) = q.select d := by
  have hrows : ((d.rows.filter q.keeps).filter q.keeps) = d.rows.filter q.keeps := by
    rw [List.filter_filter]
    simp
  simp only [select, Dataset.select, hrows]

/-- Rows that are told apart by an ordering, put together again. -/
theorem filter_ordering_perm (f : Row → Ordering) (rows : List Row) :
    (rows.filter (fun row => (f row).isLT) ++ rows.filter (fun row => (f row).isEq) ++
      rows.filter (fun row => (f row).isGT)).Perm rows := by
  induction rows with
  | nil => exact .refl _
  | cons row rows ih =>
    -- the row goes to the front from the front of its part
    refine .trans ?_ (ih.cons row)
    cases h : f row with
    | lt => simp [h]
    | eq => simp [h, List.perm_middle]
    | gt =>
      simp only [List.filter_cons, h]
      exact List.perm_middle

/-- **Comparisons of order.** Let a column of the dataset be its own trim, and let neither the column
nor the operand have a character of which signs consist. Each of the six comparisons of order, with
blanks around its sign, is understood; it leaves rows of the dataset in their order, under the same
columns, and when it is run on what it left, it changes nothing. Every row is below the operand,
equal to it or above it, and only one of these, so what these three leave is the dataset when it is
put together. The other three leave the rows that these do not. -/
theorem partition_of_comparisons (hd : column ∈ d.columns)
    (htrim : Text.trimmed column = column.toList)
    (hcolumn : ∀ x ∈ ['<', '>', '='], x ∉ column.toList)
    (hoperand : ∀ x ∈ ['<', '>', '='], x ∉ operand.toList) :
    ∃ kept : Comparison → Dataset,
      (∀ k, k ≠ .contains → ∃ description,
        run d (column ++ " " ++ k.name ++ " " ++ operand) = .ok (kept k, description) ∧
          run (kept k) (column ++ " " ++ k.name ++ " " ++ operand) = .ok (kept k, description) ∧
          (kept k).columns = d.columns ∧
          (kept k).rows = d.rows.filter (· ∈ (kept k).rows)) ∧
      (∀ row ∈ d.rows, ∃! k, k ∈ [Comparison.below, .equals, .above] ∧ row ∈ (kept k).rows) ∧
      ((kept .below).rows ++ (kept .equals).rows ++ (kept .above).rows).Perm d.rows ∧
      (kept .atLeast).rows = d.rows.filter (· ∉ (kept .below).rows) ∧
      (kept .atMost).rows = d.rows.filter (· ∉ (kept .above).rows) ∧
      (kept .differs).rows = d.rows.filter (· ∉ (kept .equals).rows) := by
  let query (k : Comparison) : Query :=
    { column, comparison := k, operand := String.ofList (unmarked (Text.trimmed operand)) }
  have hread (k : Comparison) (hk : k ≠ .contains) :
      parse? (column ++ " " ++ k.name ++ " " ++ operand) = some (query k) := by
    rw [parse?_eq_some hk hcolumn hoperand, htrim, String.ofList_toList]
  have hkeeps (k : Comparison) (row : Row) : (query k).keeps row =
      k.holds (Row.cell row column) (.text (String.ofList (unmarked (Text.trimmed operand)))) := rfl
  have hisColumn : d.isColumn column = true := by simpa [Dataset.isColumn] using hd
  -- all of them read the same column and the same operand, so what they keep differs as the
  -- relations do
  refine ⟨fun k => (query k).select d, fun k hk => ⟨(query k).description, ?_, ?_, rfl, ?_⟩, ?_, ?_,
    ?_, ?_, ?_⟩
  · exact run_eq_ok_iff.2 ⟨query k, hread k hk, hisColumn, rfl⟩
  · refine run_eq_ok_iff.2 ⟨query k, hread k hk, hisColumn, ?_⟩
    rw [select_select]
  · exact rows_select_eq_filter _ d
  · intro row hrow
    have hrelation := Comparison.existsUnique_holds (Row.cell row column)
      (.text (String.ofList (unmarked (Text.trimmed operand))))
    simpa [mem_rows_select, hrow, hkeeps] using hrelation
  · exact filter_ordering_perm _ d.rows
  · exact rows_select_eq_filter_not (query .below) (query .atLeast)
      (fun _ => Comparison.holds_atLeast _ _) d
  · exact rows_select_eq_filter_not (query .above) (query .atMost)
      (fun _ => Comparison.holds_atMost _ _) d
  · exact rows_select_eq_filter_not (query .equals) (query .differs)
      (fun _ => Comparison.holds_differs _ _) d

/-- A column with a number, a text and an empty cell. -/
def readings : Dataset where
  columns := ["age"]
  rows :=
    [⟨[("age", .number 18)], by simp⟩, ⟨[("age", .text "old")], by simp⟩,
      ⟨[("age", .null)], by simp⟩]

/-- Of these, the number alone is below 30, and the others are all that is not. -/
theorem partition_of_comparisons_readings :
    "age" ∈ readings.columns ∧ Text.trimmed "age" = "age".toList ∧
      (∀ x ∈ ['<', '>', '='], x ∉ "age".toList) ∧ (∀ x ∈ ['<', '>', '='], x ∉ "30".toList) ∧
      ∃ below atLeast, run readings "age < 30" = .ok below ∧ run readings "age >= 30" = .ok atLeast ∧
        below.1.rows = readings.rows.take 1 ∧ atLeast.1.rows = readings.rows.drop 1 := by
  have hd : "age" ∈ readings.columns := by decide
  have htrim : Text.trimmed "age" = "age".toList := by decide
  have hcolumn : ∀ x ∈ ['<', '>', '='], x ∉ "age".toList := by simp
  have hoperand : ∀ x ∈ ['<', '>', '='], x ∉ "30".toList := by simp
  obtain ⟨kept, hrun, -, -, hatLeast, -⟩ := partition_of_comparisons hd htrim hcolumn hoperand
  obtain ⟨_, hbelowRun, -⟩ := hrun .below (by decide)
  obtain ⟨_, hatLeastRun, -⟩ := hrun .atLeast (by decide)
  have hbelow : (kept .below).rows = readings.rows.take 1 := by
    have h : (run readings "age < 30").toOption.map (fun r => r.1.rows) =
        some (readings.rows.take 1) := by decide +kernel
    rw [show "age < 30" = "age" ++ " " ++ Comparison.below.name ++ " " ++ "30" by decide,
      hbelowRun] at h
    exact Option.some.inj h
  rw [hbelow] at hatLeast
  exact ⟨hd, htrim, hcolumn, hoperand, _, _, hbelowRun, hatLeastRun, hbelow,
    hatLeast.trans (by decide +kernel)⟩

end Query

end Tabula

import Tabula.Column.Profile

/-!
# The kind of a column by its values

The evidence of a column is gathered value by value, and the gathering stops early. What is gathered
in the end tells the kind that all values together have: the evidence that no further value makes a
difference to is that of a categorical column (`Evidence.kind_foldl_of_isFinal`), so the values that
were not looked at would not have changed it (`Classifier.kind_gather`). From then on the kind is a
matter of which values there are, not of where and how often (`Classifier.infer_of_values`).
-/

namespace Tabula

/-! ### Evidence -/

namespace Evidence

variable {e : Evidence}

theorem isFinal_iff : e.isFinal = true ↔ e.allNumbers = false ∧ e.allMoments = false := by
  rw [isFinal, Bool.and_eq_true, Bool.not_eq_true', Bool.not_eq_true']

theorem isFinal_add (h : e.isFinal = true) (value : Cell) : (e.add value).isFinal = true := by
  obtain ⟨hnumbers, hmoments⟩ := isFinal_iff.1 h
  rw [isFinal_iff, add, hnumbers, hmoments]
  exact ⟨rfl, rfl⟩

theorem kind_of_isFinal (h : e.isFinal = true) : e.kind = .categorical := by
  obtain ⟨hnumbers, hmoments⟩ := isFinal_iff.1 h
  rw [kind, hnumbers, hmoments]
  exact ite_self _

/-- No further value changes what final evidence says. -/
theorem kind_foldl_of_isFinal (h : e.isFinal = true) (values : List Cell) :
    (values.foldl add e).kind = e.kind := by
  induction values generalizing e with
  | nil => rfl
  | cons value values ih =>
    rw [List.foldl_cons, ih (isFinal_add h value), kind_of_isFinal (isFinal_add h value),
      kind_of_isFinal h]

theorem foldl_add (e : Evidence) (values : List Cell) :
    values.foldl add e =
      { count := e.count + values.length
        allNumbers := e.allNumbers && values.all (·.number?.isSome)
        allMoments := e.allMoments && values.all (·.moment?.isSome) } := by
  induction values generalizing e with
  | nil => simp
  | cons value values ih =>
    rw [List.foldl_cons, ih, add, List.length_cons, List.all_cons, List.all_cons, Bool.and_assoc,
      Bool.and_assoc, Nat.add_assoc, Nat.add_comm 1]

end Evidence

/-! ### The values of a column -/

/-- There are values, and all of them read as numbers. -/
def AllNumbers (values : List Cell) : Prop :=
  values ≠ [] ∧ ∀ value ∈ values, value.number?.isSome = true

/-- There are values, and all of them read as dates. -/
def AllMoments (values : List Cell) : Prop :=
  values ≠ [] ∧ ∀ value ∈ values, value.moment?.isSome = true

instance (values : List Cell) : Decidable (AllNumbers values) :=
  inferInstanceAs (Decidable (_ ∧ _))

instance (values : List Cell) : Decidable (AllMoments values) :=
  inferInstanceAs (Decidable (_ ∧ _))

theorem Evidence.kind_foldl_add (values : List Cell) :
    (values.foldl add {}).kind =
      if AllNumbers values then .numeric
      else if AllMoments values then .temporal
      else .categorical := by
  rw [foldl_add, kind]
  by_cases hnil : values = []
  · simp [AllNumbers, AllMoments, hnil]
  · simp [AllNumbers, AllMoments, hnil]

namespace Classifier

variable (c : Classifier) (d : Dataset) (column : String)

/-- The cells of a column that are not missing, in the order of the rows. -/
def values : List Cell :=
  (d.column column).filter (!c.missing.isMissing ·)

/-- That the gathering stops early makes no difference to the kind. -/
theorem kind_gather (e : Evidence) (cells : List Cell) :
    (c.gather e cells).kind =
      ((cells.filter (!c.missing.isMissing ·)).foldl Evidence.add e).kind := by
  induction cells generalizing e with
  | nil => rfl
  | cons cell rest ih =>
    rw [gather]
    by_cases hmissing : c.missing.isMissing cell = true
    · rw [if_pos hmissing, ih, List.filter_cons_of_neg (by simpa using hmissing)]
    · rw [if_neg hmissing, List.filter_cons_of_pos (by simpa using hmissing), List.foldl_cons]
      split
      · next hfinal => exact (Evidence.kind_foldl_of_isFinal hfinal _).symm
      · exact ih _

theorem infer_eq :
    c.infer d column =
      if AllNumbers (c.values d column) then .numeric
      else if AllMoments (c.values d column) then .temporal
      else .categorical := by
  rw [infer, kind_gather, Evidence.kind_foldl_add]
  rfl

theorem infer_eq_iff :
    (c.infer d column = .numeric ↔ AllNumbers (c.values d column)) ∧
      (c.infer d column = .temporal ↔
        ¬ AllNumbers (c.values d column) ∧ AllMoments (c.values d column)) ∧
      (c.infer d column = .categorical ↔
        ¬ AllNumbers (c.values d column) ∧ ¬ AllMoments (c.values d column)) := by
  rw [infer_eq]
  by_cases hnumbers : AllNumbers (c.values d column)
  · simp [hnumbers]
  · by_cases hmoments : AllMoments (c.values d column) <;> simp [hnumbers, hmoments]

theorem mem_values_iff {c : Classifier} {d : Dataset} {column : String} {value : Cell} :
    value ∈ c.values d column ↔
      (∃ row ∈ d.rows, Row.cell row column = value) ∧ c.missing.isMissing value = false := by
  rw [values, List.mem_filter, Dataset.column, List.mem_map, Bool.not_eq_true']

/-- The kind is a matter of which values there are. -/
theorem infer_congr {d' : Dataset}
    (h : ∀ value, value ∈ c.values d' column ↔ value ∈ c.values d column) :
    c.infer d' column = c.infer d column := by
  have hnil : c.values d' column = [] ↔ c.values d column = [] := by
    simp only [List.eq_nil_iff_forall_not_mem, h]
  have hnumbers : AllNumbers (c.values d' column) ↔ AllNumbers (c.values d column) := by
    simp only [AllNumbers, ne_eq, hnil, h]
  have hmoments : AllMoments (c.values d' column) ↔ AllMoments (c.values d column) := by
    simp only [AllMoments, ne_eq, hnil, h]
  simp only [infer_eq, hnumbers, hmoments]

/-- **The kind by the values.** A column is numeric exactly if there are values in it and all of
them read as numbers, else temporal exactly if there are values and all of them read as dates, else
categorical. So it keeps its kind when its rows are rearranged or repeated and when rows are added
that miss it; and with a value somewhere that is neither a number nor a date it is categorical. -/
theorem infer_of_values :
    let values := c.values d column
    (c.infer d column = .numeric ↔ AllNumbers values) ∧
      (c.infer d column = .temporal ↔ ¬ AllNumbers values ∧ AllMoments values) ∧
      (c.infer d column = .categorical ↔ ¬ AllNumbers values ∧ ¬ AllMoments values) ∧
      (∀ rows, d.rows ⊆ rows →
        (∀ row ∈ rows, row ∈ d.rows ∨ c.missing.isMissing (Row.cell row column) = true) →
        c.infer (d.select rows) column = c.infer d column) ∧
      ∀ rows row, row ∈ rows → c.missing.isMissing (Row.cell row column) = false →
        (Row.cell row column).number? = none → (Row.cell row column).moment? = none →
        c.infer (d.select rows) column = .categorical := by
  intro values
  obtain ⟨hnumeric, htemporal, hcategorical⟩ := c.infer_eq_iff d column
  refine ⟨hnumeric, htemporal, hcategorical, ?_, ?_⟩
  · intro rows hsub hrows
    apply infer_congr
    intro value
    rw [mem_values_iff, mem_values_iff, Dataset.rows_select]
    constructor
    · rintro ⟨⟨row, hrow, rfl⟩, hvalue⟩
      -- the rows that were added have no value in the column, so this one is not of them
      rcases hrows row hrow with hold | hmissing
      · exact ⟨⟨row, hold, rfl⟩, hvalue⟩
      · rw [hvalue] at hmissing
        exact absurd hmissing Bool.false_ne_true
    · rintro ⟨⟨row, hrow, rfl⟩, hvalue⟩
      exact ⟨⟨row, hsub hrow, rfl⟩, hvalue⟩
  · intro rows row hrow hvalue hnumber hmoment
    have hmem : Row.cell row column ∈ c.values (d.select rows) column :=
      mem_values_iff.2 ⟨⟨row, hrow, rfl⟩, hvalue⟩
    rw [(c.infer_eq_iff (d.select rows) column).2.2]
    constructor
    · intro h
      simpa [hnumber] using h.2 _ hmem
    · intro h
      simpa [hmoment] using h.2 _ hmem

/-- Two dates, and a cell between them that counts as missing. -/
def twoDates : Dataset where
  columns := ["joined"]
  rows := [⟨[("joined", .text "2024-01-01")], by simp⟩, ⟨[("joined", .text "N/A")], by simp⟩,
    ⟨[("joined", .text "01/02/2024")], by simp⟩]

/-- The rows of the two dates, turned round, then once more as they are, then one without the
column. -/
def manyDates : List Row :=
  twoDates.rows.reverse ++ twoDates.rows ++ [∅]

/-- A row with what is neither a number nor a date. -/
def soon : Row :=
  ⟨[("joined", .text "soon")], by simp⟩

/-- The column of the two dates is temporal, also when its rows come many times, until something
else comes in. -/
theorem infer_of_values_twoDates :
    let c : Classifier := {}
    AllMoments (c.values twoDates "joined") ∧
      c.infer twoDates "joined" = .temporal ∧
      c.infer (twoDates.select manyDates) "joined" = .temporal ∧
      c.infer (twoDates.select (soon :: manyDates)) "joined" = .categorical := by
  intro c
  have hmoments : AllMoments (c.values twoDates "joined") := by decide +kernel
  obtain ⟨-, htemporal, -, hkept, hstray⟩ := c.infer_of_values twoDates "joined"
  have hkind : c.infer twoDates "joined" = .temporal := htemporal.2 ⟨by decide +kernel, hmoments⟩
  refine ⟨hmoments, hkind, ?_, ?_⟩
  · rw [hkept manyDates, hkind]
    · simp [manyDates]
    · intro row hrow
      simp only [manyDates, List.mem_append, List.mem_reverse, or_self, List.mem_singleton] at hrow
      rcases hrow with hold | rfl
      · exact .inl hold
      · exact .inr rfl
  · exact hstray _ soon List.mem_cons_self (by decide +kernel) (by decide +kernel)
      (by decide +kernel)

end Classifier

end Tabula

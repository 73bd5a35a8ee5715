import Tabula.Proofs.Statistics.Frequency
import Tabula.Statistics.Column

/-!
# What the passes over a column gather

The statistics of a column are gathered batch by batch, yet each pass is one fold over the cells of
the column (`foldCells_eq`), so that the size of the batches has no influence on the result
(`column_setBatchSize`). What the first pass counts is told by the values of the column, the cells
that are not missing, in the order of the rows: how many there are, how many different texts, and
the first of the texts that none outnumbers (`column_eq_reference`).
-/

namespace Tabula

namespace Statistician

variable (s : Statistician) (rows : List Row) (column : String)

/-! ### Batches -/

theorem flatten_batches {α : Type} {n : Nat} (hn : 0 < n) (l : List α) :
    (batches n l).flatten = l := by
  fun_induction batches n l with
  | case1 l hend => exact (hend.resolve_left hn.ne').symm
  | case2 l hend ih => rw [List.flatten_cons, ih, List.take_append_drop]

theorem foldCells_eq {σ : Type} (f : σ → Cell → σ) (start : σ) :
    s.foldCells rows column f start = (rows.map (Row.cell · column)).foldl f start := by
  rw [foldCells, ← List.foldl_flatten, flatten_batches s.batchSize_pos, List.foldl_map]

theorem tally_setBatchSize (numeric : Bool) (n : Nat) :
    (s.setBatchSize n).tally rows column numeric = s.tally rows column numeric := by
  rw [tally, tally, foldCells_eq, foldCells_eq]
  rfl

theorem spread_setBatchSize (mean : Float) (stride n : Nat) :
    (s.setBatchSize n).spread rows column mean stride = s.spread rows column mean stride := by
  rw [spread, spread, foldCells_eq, foldCells_eq]
  rfl

theorem column_setBatchSize (kind : ColumnKind) (total : Option Nat) (n : Nat) :
    (s.setBatchSize n).column rows column kind total = s.column rows column kind total := by
  have hfilled (t : Tally) (result : ColumnStatistics) :
      (s.setBatchSize n).withNumbers rows column t result =
        s.withNumbers rows column t result := by
    rw [withNumbers, withNumbers, spread_setBatchSize]
    rfl
  rw [Statistician.column, Statistician.column, tally_setBatchSize]
  simp only [hfilled]

/-! ### The first pass -/

/-- The cells of a column that are not missing, in the order of the rows. -/
def values : List Cell :=
  (rows.map (Row.cell · column)).filter (!s.missing.isMissing ·)

/-- What the first pass gathers from some values, none of which is missing. -/
def Tally.ofValues (numeric : Bool) (values : List Cell) : Tally :=
  values.foldl (Tally.withValue numeric) {}

theorem Tally.withValue_setMissingCount (numeric : Bool) (t : Tally) (c : Cell) (n : Nat) :
    Tally.withValue numeric { t with missingCount := n } c =
      { Tally.withValue numeric t c with missingCount := n } := by
  cases numeric <;> cases h : c.number? <;> simp [Tally.withValue, Tally.withNumber, h]

@[simp] theorem Tally.withValue_count (numeric : Bool) (t : Tally) (c : Cell) :
    (t.withValue numeric c).count = t.count + 1 := by
  cases numeric <;> cases h : c.number? <;> simp [Tally.withValue, Tally.withNumber, h]

@[simp] theorem Tally.withValue_frequencies (numeric : Bool) (t : Tally) (c : Cell) :
    (t.withValue numeric c).frequencies = t.frequencies.add (countedText c) := by
  cases numeric <;> cases h : c.number? <;> simp [Tally.withValue, Tally.withNumber, h]

/-- The first pass skips the missing cells and does nothing with them but count them. -/
theorem foldl_addCell (numeric : Bool) (cells : List Cell) :
    cells.foldl (s.addCell numeric) {} =
      { Tally.ofValues numeric (cells.filter (!s.missing.isMissing ·)) with
        missingCount := cells.countP s.missing.isMissing } := by
  induction cells using List.reverseRecOn with
  | nil => rfl
  | append_singleton cells c ih =>
    rw [List.foldl_concat, ih, addCell]
    cases hc : s.missing.isMissing c with
    | true => simp [hc]
    | false =>
      -- the count of missing cells is carried past the value
      rw [if_neg (by simp), Tally.withValue_setMissingCount]
      simp [hc, Tally.ofValues]

theorem tally_eq (numeric : Bool) :
    s.tally rows column numeric =
      { Tally.ofValues numeric (s.values rows column) with
        missingCount := (rows.map (Row.cell · column)).countP s.missing.isMissing } := by
  rw [tally, foldCells_eq, foldl_addCell, values]

@[simp] theorem Tally.count_ofValues (numeric : Bool) (values : List Cell) :
    (Tally.ofValues numeric values).count = values.length := by
  induction values using List.reverseRecOn with
  | nil => rfl
  | append_singleton values c ih =>
    rw [Tally.ofValues, List.foldl_concat, Tally.withValue_count, ← Tally.ofValues, ih,
      List.length_append, List.length_singleton]

@[simp] theorem Tally.frequencies_ofValues (numeric : Bool) (values : List Cell) :
    (Tally.ofValues numeric values).frequencies = .ofTexts (values.map countedText) := by
  induction values using List.reverseRecOn with
  | nil => rfl
  | append_singleton values c ih =>
    rw [Tally.ofValues, List.foldl_concat, Tally.withValue_frequencies, ← Tally.ofValues, ih,
      List.map_append, List.map_singleton, Frequencies.ofTexts_concat]

/-! ### The result -/

/-- The counts of the result are those of the first pass; the second one leaves them alone. -/
theorem counts_column {kind : ColumnKind} {t : Tally}
    (ht : s.tally rows column (kind = .numeric) = t) (total : Option Nat) :
    (s.column rows column kind total).count = t.count ∧
      (s.column rows column kind total).missingCount = t.missingCount ∧
      (s.column rows column kind total).uniqueCount =
        (if t.count = 0 then none else some t.frequencies.distinct) ∧
      (s.column rows column kind total).mode =
        if t.count = 0 then none else t.frequencies.mode? := by
  simp only [Statistician.column, ht]
  by_cases hcount : t.count = 0
  · simp only [hcount, if_true, and_self]
  · simp only [hcount, if_false]
    split
    · exact ⟨rfl, rfl, rfl, rfl⟩
    · exact ⟨rfl, rfl, rfl, rfl⟩

/-- Every row has a value in a column or misses it. -/
theorem length_values_add_countP :
    (s.values rows column).length +
      (rows.map (Row.cell · column)).countP s.missing.isMissing = rows.length := by
  rw [values, ← List.countP_eq_length_filter, Nat.add_comm]
  calc _ = (rows.map (Row.cell · column)).length := by
        rw [List.length_eq_countP_add_countP s.missing.isMissing]
        simp only [Bool.not_eq_true, Bool.decide_eq_false]
    _ = rows.length := List.length_map _

/-- The statistics are of the column that was asked for, and count its values. -/
theorem values_column (kind : ColumnKind) (total : Option Nat) :
    let result := s.column rows column kind total
    result.column = column ∧ result.kind = kind ∧
      result.count = (s.values rows column).length ∧
      result.missingCount = rows.length - (s.values rows column).length := by
  intro result
  obtain ⟨hcount, hmissing, -⟩ :=
    s.counts_column rows column (s.tally_eq rows column (kind = .numeric)) total
  rw [Tally.count_ofValues] at hcount
  have hnames : result.column = column ∧ result.kind = kind := by
    show (s.column rows column kind total).column = column ∧
      (s.column rows column kind total).kind = kind
    simp only [Statistician.column]
    split
    · exact ⟨rfl, rfl⟩
    · split <;> exact ⟨rfl, rfl⟩
  refine ⟨hnames.1, hnames.2, hcount, ?_⟩
  rw [← s.length_values_add_countP rows column, Nat.add_sub_cancel_left]
  exact hmissing

theorem values_perm {rows' : List Row} (h : rows'.Perm rows) :
    (s.values rows' column).Perm (s.values rows column) :=
  (h.map _).filter _

/-- What is counted does not depend on the order of the rows. -/
theorem counts_column_of_perm {rows' : List Row} (h : rows'.Perm rows) (kind : ColumnKind)
    (total : Option Nat) :
    (s.column rows' column kind total).count = (s.column rows column kind total).count ∧
      (s.column rows' column kind total).missingCount =
        (s.column rows column kind total).missingCount ∧
      (s.column rows' column kind total).uniqueCount =
        (s.column rows column kind total).uniqueCount := by
  obtain ⟨hcount, hmissing, hunique, -⟩ := s.counts_column rows column (s.tally_eq ..) total
  obtain ⟨hcount', hmissing', hunique', -⟩ := s.counts_column rows' column (s.tally_eq ..) total
  simp only [Tally.count_ofValues, Tally.frequencies_ofValues, Frequencies.distinct_ofTexts] at *
  have hvalues := s.values_perm rows column h
  have htexts := List.toFinset_eq_of_perm _ _ (hvalues.map countedText)
  rw [hcount, hcount', hmissing, hmissing', hunique, hunique', hvalues.length_eq, htexts,
    (h.map _).countP_eq]
  exact ⟨rfl, rfl, rfl⟩

/-- **The statistics told by the values.** Every value shows a text, which counts without the blanks
at its ends. Of these texts in the order of the rows, the statistics hold the number, beside that of
the rows that miss a value, the number of different ones, and the first of those that none
outnumbers; without values there is neither. However many rows are taken at a time, all of the
statistics are the same. -/
theorem column_eq_reference (kind : ColumnKind) (total : Option Nat) :
    let texts := (s.values rows column).map fun c => String.ofList (Text.trimmed c.display)
    let result := s.column rows column kind total
    result.count = texts.length ∧ result.count + result.missingCount = rows.length ∧
      result.uniqueCount = (if result.count = 0 then none else some texts.toFinset.card) ∧
      result.mode = Frequencies.mostFrequent? texts ∧
      (result.mode = none ↔ result.count = 0) ∧
      ∀ n, (s.setBatchSize n).column rows column kind total = result := by
  intro texts result
  obtain ⟨hcount, hmissing, hunique, hmode⟩ :=
    s.counts_column rows column (s.tally_eq rows column (kind = .numeric)) total
  simp only [Tally.count_ofValues, Tally.frequencies_ofValues] at hcount hunique hmode
  have hlength : result.count = texts.length := hcount.trans (List.length_map _).symm
  have hmost : result.mode = Frequencies.mostFrequent? texts := by
    rw [hmode, ← hcount, hlength, Frequencies.mode?_ofTexts]
    -- without values, no text is the first one either
    split
    · next h => rw [List.length_eq_zero_iff.1 h]; rfl
    · rfl
  refine ⟨hlength, ?_, ?_, hmost, ?_, s.column_setBatchSize rows column kind total⟩
  · rw [hcount, hmissing, length_values_add_countP]
  · rw [hunique, ← hcount, Frequencies.distinct_ofTexts]
    rfl
  · rw [hmost, Frequencies.mostFrequent?_eq_none_iff, hlength, List.length_eq_zero_iff]

/-- A column in which two texts occur twice, one of them as a number and between blanks. -/
def tiedTexts : List Row :=
  [⟨[("remark", .text " 2 ")], by simp⟩, ⟨[("remark", .text "low")], by simp⟩,
    ⟨[("remark", .text "n/a")], by simp⟩, ⟨[("remark", .text "low\t")], by simp⟩,
    ⟨[("remark", .number 2)], by simp⟩, ⟨[("remark", .null)], by simp⟩]

/-- Both occur equally often, and the one met first is the most frequent, whether all rows are taken
at a time or two. -/
theorem column_eq_reference_tiedTexts :
    let s : Statistician := {}
    let result := s.column tiedTexts "remark" .categorical none
    result.count = 4 ∧ result.missingCount = 2 ∧ result.uniqueCount = some 2 ∧
      result.mode = some "2" ∧
      (s.setBatchSize 2).column tiedTexts "remark" .categorical none = result := by
  intro s result
  have htexts :
      ((s.values tiedTexts "remark").map fun c => String.ofList (Text.trimmed c.display)) =
        ["2", "low", "low", "2"] := by decide +kernel
  obtain ⟨hcount, hrows, hunique, hmode, -, hbatches⟩ :=
    s.column_eq_reference tiedTexts "remark" .categorical none
  rw [htexts] at hcount hunique hmode
  have hfour : result.count = 4 := hcount
  refine ⟨hfour, ?_, ?_, ?_, hbatches 2⟩
  · have hsix : result.count + result.missingCount = 6 := hrows
    omega
  · have hpos : ¬ result.count = 0 := by omega
    exact hunique.trans (if_neg hpos)
  · exact hmode

end Statistician

end Tabula

import Tabula.Proofs.Cell.Field
import Tabula.Proofs.Csv.Table
import Tabula.Proofs.Statistics.Inferred

/-!
# Placeholders in files

A rule for missing values names the texts that stand for one, but a field of a file is typed before
any rule sees it, and numbers and truth values never count as missing. So a placeholder is one in a
file too, unless it writes a finite number or a truth value (`Cell.Typing.isMissing_iff`). The
records with the others are passed over when a column is profiled and when its statistics are taken,
as if they were not there (`MissingRule.placeholders_of_file`); a placeholder like `-999` is a value
like any other (`MissingRule.counted_readout`).
-/

namespace Tabula

open Text (trimmed)

/-! ### Statistics of the same values -/

/-- The statistics without what they say of rows: how many have no value, and of how many rows the
table has. -/
def ColumnStatistics.valuesOnly (result : ColumnStatistics) : ColumnStatistics :=
  { result with
    missingCount := 0
    omission := result.medianSample?.map fun sample => { medianSample := some sample } }

/-- Rows with the same values in a column have the same statistics there, but for what is said of
the rows. -/
theorem Statistician.valuesOnly_column (s : Statistician) {rows rows' : List Row} {column : String}
    (h : s.values rows column = s.values rows' column) (kind : ColumnKind) (total : Option Nat) :
    (s.column rows column kind total).valuesOnly =
      (s.column rows' column kind total).valuesOnly := by
  have hnumbers : s.numbers rows column = s.numbers rows' column := by rw [numbers, numbers, h]
  simp only [Statistician.column, tally_eq, h, withNumbers, spread_eq, hnumbers,
    ColumnStatistics.valuesOnly, ColumnStatistics.medianSample?]
  split
  · rfl
  · split
    · simp only [bind_medianSample]
    · simp only [bind_medianSample]

/-! ### Fields that count as missing -/

namespace Cell

theorem IsTyped.trimmed_ne_nil {raw : String} (h : IsTyped raw) : trimmed raw ≠ [] := by
  rcases h with ⟨b, hspelled⟩ | hread
  · exact (read_of_mem_spellings hspelled).2.2
  · intro hnil
    rw [hnil, Decimal.readFinite?_nil] at hread
    exact absurd hread (by decide)

/-- A field counts as missing when it is blank, or not typed and a placeholder. -/
theorem Typing.isMissing_iff {raw : String} {c : Cell} (h : Typing raw c) (rule : MissingRule) :
    rule.isMissing c = true ↔
      trimmed raw = [] ∨ ¬ IsTyped raw ∧ rule.isMissing (Cell.text raw) = true := by
  cases h with
  | blank hblank => exact iff_of_true rfl (.inl hblank)
  | truth hspelled =>
    have htyped : IsTyped raw := .inl ⟨_, hspelled⟩
    exact iff_of_false Bool.false_ne_true
      (not_or.2 ⟨htyped.trimmed_ne_nil, fun hrest => hrest.1 htyped⟩)
  | number hread =>
    have htyped : IsTyped raw := .inr (by rw [hread, Option.isSome_some])
    exact iff_of_false Bool.false_ne_true
      (not_or.2 ⟨htyped.trimmed_ne_nil, fun hrest => hrest.1 htyped⟩)
  | text hsome hspelled hread =>
    have htyped : ¬ IsTyped raw := by
      rintro (⟨b, hb⟩ | hnumber)
      · exact hspelled b hb
      · rw [hread] at hnumber
        exact absurd hnumber (by decide)
    simp [hsome, htyped]

end Cell

namespace MissingRule

variable (rule : MissingRule)

theorem isMissing_ofField_of_isTyped {raw : String} (h : Cell.IsTyped raw) :
    rule.isMissing (.ofField raw) = false := by
  rw [Bool.eq_false_iff]
  intro hmissing
  rcases ((Cell.typing_ofField raw).isMissing_iff rule).1 hmissing with hblank | hrest
  · exact h.trimmed_ne_nil hblank
  · exact hrest.1 h

theorem isMissing_ofField_iff {raw : String} (h : rule.isMissing (.text raw) = true) :
    rule.isMissing (.ofField raw) = true ↔ ¬ Cell.IsTyped raw := by
  constructor
  · intro hmissing htyped
    rw [rule.isMissing_ofField_of_isTyped htyped] at hmissing
    exact absurd hmissing Bool.false_ne_true
  · intro htyped
    exact ((Cell.typing_ofField raw).isMissing_iff rule).2 (.inr ⟨htyped, h⟩)

/-! ### Records with placeholders -/

/-- Whether a record has a placeholder under a name, one that is not typed. -/
def isPlaceholder (header : List String) (column : String) (record : List String) : Bool :=
  (Csv.fieldUnder? header record column).any fun raw =>
    rule.isMissing (.text raw) && !decide (Cell.IsTyped raw)

theorem isMissing_of_isPlaceholder {header record : List String} {column : String}
    (h : rule.isPlaceholder header column record = true) :
    rule.isMissing (Row.cell (Csv.row header record) column) = true := by
  rw [Csv.cell_row]
  rw [isPlaceholder] at h
  cases hfield : Csv.fieldUnder? header record column with
  | none => rfl
  | some raw =>
    rw [hfield, Option.any_some, Bool.and_eq_true, Bool.not_eq_true', decide_eq_false_iff_not] at h
    exact (rule.isMissing_ofField_iff h.1).2 h.2

/-- The records without those that have a placeholder under a name. -/
def withoutPlaceholders (header : List String) (column : String) (records : List (List String)) :
    List (List String) :=
  records.filter (!rule.isPlaceholder header column ·)

/-- Without the placeholders, the same cells are not missing. -/
theorem values_withoutPlaceholders (header : List String) (column : String)
    (records : List (List String)) :
    ((Csv.table header (rule.withoutPlaceholders header column records)).column column).filter
        (!rule.isMissing ·) =
      ((Csv.table header records).column column).filter (!rule.isMissing ·) := by
  simp only [Dataset.column, Csv.table, withoutPlaceholders, List.map_map, List.filter_map,
    List.filter_filter]
  congr 1
  apply List.filter_congr
  intro record _
  cases hplaceholder : rule.isPlaceholder header column record with
  | false => exact Bool.and_true _
  | true => simp [rule.isMissing_of_isPlaceholder hplaceholder]

/-- **Placeholders in files.** A field whose text counts as missing is typed as a cell that counts
as missing too, unless it writes a finite number or a truth value; such a field never counts as
missing. The records with the others make no difference to the kind that is inferred of a column,
nor to its statistics, but for the number of missing cells and of rows. -/
theorem placeholders_of_file (rule : MissingRule) :
    (∀ raw, rule.isMissing (.text raw) = true →
      (rule.isMissing (.ofField raw) = true ↔ ¬ Cell.IsTyped raw)) ∧
    (∀ raw, Cell.IsTyped raw → rule.isMissing (.ofField raw) = false) ∧
    ∀ (header : List String) (records : List (List String)) (column : String),
      let d := Csv.table header records
      let d' := Csv.table header (rule.withoutPlaceholders header column records)
      (∀ c : Classifier, c.missing = rule → c.infer d' column = c.infer d column) ∧
      ∀ s : Statistician, s.missing = rule → ∀ kind total,
        (s.column d'.rows column kind total).valuesOnly =
          (s.column d.rows column kind total).valuesOnly := by
  refine ⟨fun raw => rule.isMissing_ofField_iff, fun raw => rule.isMissing_ofField_of_isTyped, ?_⟩
  intro header records column d d'
  have hvalues := rule.values_withoutPlaceholders header column records
  constructor
  · rintro c rfl
    have hsame : c.values d' column = c.values d column := hvalues
    exact c.infer_congr d column fun value => by rw [hsame]
  · rintro s rfl kind total
    exact s.valuesOnly_column hvalues kind total

/-- A file with an age and a placeholder for one. -/
def ages : List (List String) :=
  [["36"], [" n/a "]]

/-- The placeholder is missing in the file as well, and the age is not. The file has the kind and
the statistics of the one with the age alone. -/
theorem placeholders_of_file_ages :
    let rule : MissingRule := {}
    let c : Classifier := {}
    let s : Statistician := {}
    (rule.isMissing (.text " n/a ") = true ∧ ¬ Cell.IsTyped " n/a " ∧ Cell.IsTyped "36" ∧
        c.missing = rule ∧ s.missing = rule) ∧
      rule.isMissing (.ofField " n/a ") = true ∧ rule.isMissing (.ofField "36") = false ∧
      rule.withoutPlaceholders ["age"] "age" ages = [["36"]] ∧
      c.infer (Csv.table ["age"] [["36"]]) "age" = c.infer (Csv.table ["age"] ages) "age" ∧
      (s.column (Csv.table ["age"] [["36"]]).rows "age" .numeric none).valuesOnly =
        (s.column (Csv.table ["age"] ages).rows "age" .numeric none).valuesOnly := by
  intro rule c s
  have hmissing : rule.isMissing (.text " n/a ") = true := by decide +kernel
  have huntyped : ¬ Cell.IsTyped " n/a " := by decide +kernel
  have htyped : Cell.IsTyped "36" := by decide +kernel
  have hkept : rule.withoutPlaceholders ["age"] "age" ages = [["36"]] := by decide +kernel
  obtain ⟨hplaceholder, hvalue, hfile⟩ := placeholders_of_file rule
  obtain ⟨hkind, hstatistics⟩ := hfile ["age"] ages "age"
  rw [hkept] at hkind hstatistics
  exact ⟨⟨hmissing, huntyped, htyped, rfl, rfl⟩, (hplaceholder _ hmissing).2 huntyped,
    hvalue _ htyped, hkept, hkind c rfl, hstatistics s rfl .numeric none⟩

/-- A rule for which minus 999 stands for a missing value. -/
def readoutRule : MissingRule where
  patterns := ["-999"]

/-- In a text, the placeholder counts as missing, and in a file it does not: there it is a number,
it makes its column a numeric one, and it is counted as the one value of the column. -/
theorem counted_readout :
    let d := Csv.table ["readout"] [["-999"]]
    let c : Classifier := { missing := readoutRule }
    let s : Statistician := { missing := readoutRule }
    readoutRule.isMissing (.text "-999") = true ∧
      readoutRule.isMissing (.ofField "-999") = false ∧
      c.infer d "readout" = .numeric ∧ (s.column d.rows "readout" .numeric none).count = 1 := by
  intro d c s
  refine ⟨by decide +kernel, by decide +kernel, by decide +kernel, ?_⟩
  rw [Statistician.count_column]
  decide +kernel

end MissingRule

end Tabula

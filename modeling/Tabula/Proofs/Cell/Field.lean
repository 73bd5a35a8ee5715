import Tabula.Csv.Table
import Tabula.Proofs.Calendar.Numeral
import Tabula.Proofs.Cell.Order

/-!
# Cells of fields, and fields as texts

A field of a file becomes an empty cell, a truth value, a number or a text. `Cell.Typing` says
which, by rules that exclude each other: a field is typed by what it writes, blanks around it apart,
and only what writes nothing of the kind stays a text, blanks included (`Cell.typing_ofField`).

The cell is read the same way as the text that stood in the field. A number is the number that the
text reads as, and no date is lost with it, since no numeral is one; the six ways to write a truth
value are neither. A truth value shows another text than its field, but one that differs in the case
of letters only, which comparison ignores. So cells of a file are ranked and compared as their texts
would be (`Cell.ofField_read_as_text`).
-/

namespace Tabula

open Text (trimmed)

namespace Cell

/-! ### What a field is typed as -/

/-- The ways to write a truth value in a field. -/
def spellings : Bool → List String
  | true => ["true", "TRUE", "True"]
  | false => ["false", "FALSE", "False"]

/-- The cell that a field is typed as. -/
inductive Typing (raw : String) : Cell → Prop
  /-- A field of blanks alone is empty. -/
  | blank (hblank : trimmed raw = []) : Typing raw .null
  /-- A truth value is written in one of six ways. -/
  | truth {b : Bool} (hspelled : String.ofList (trimmed raw) ∈ spellings b) : Typing raw (.bool b)
  /-- A number is written as a finite numeral. -/
  | number {x : Float} (hread : Decimal.readFinite? (trimmed raw) = some x) :
      Typing raw (.number x)
  /-- All else is text, with the blanks around it. -/
  | text (hsome : trimmed raw ≠ []) (hspelled : ∀ b, String.ofList (trimmed raw) ∉ spellings b)
      (hread : Decimal.readFinite? (trimmed raw) = none) : Typing raw (.text raw)

theorem typing_ofField (raw : String) : Typing raw (ofField raw) := by
  -- the readings are tried in this order, and one is reached where those before it failed
  unfold ofField
  extract_lets chars
  split
  · next hblank => exact .blank hblank
  · next hsome =>
    split
    · next htrue => exact .truth (b := true) (List.contains_iff_mem.1 htrue)
    · next htrue =>
      split
      · next hfalse => exact .truth (b := false) (List.contains_iff_mem.1 hfalse)
      · next hfalse =>
        split
        · next x hread => exact .number hread
        · next hread =>
          refine .text hsome ?_ hread
          rintro (_ | _) hspelled
          · exact hfalse (List.contains_iff_mem.2 hspelled)
          · exact htrue (List.contains_iff_mem.2 hspelled)

/-- A field writes a truth value or a finite number, blanks around it apart. -/
def IsTyped (raw : String) : Prop :=
  (∃ b, String.ofList (trimmed raw) ∈ spellings b) ∨
    (Decimal.readFinite? (trimmed raw)).isSome = true

instance (raw : String) : Decidable (IsTyped raw) :=
  inferInstanceAs (Decidable (_ ∨ _))

/-- No truth value is written as a number or a date. -/
theorem read_of_mem_spellings {b : Bool} {s : List Char} (h : String.ofList s ∈ spellings b) :
    Decimal.readFinite? s = none ∧ Calendar.recognize s = none ∧ s ≠ [] := by
  have hall : ∀ b, ∀ spelling ∈ spellings b, Decimal.readFinite? spelling.toList = none ∧
      Calendar.recognize spelling.toList = none ∧ spelling.toList ≠ [] := by
    decide +kernel
  simpa using hall b _ h

/-- A truth value is written as it is shown, but for the case of letters. -/
theorem lowercase_of_mem_spellings {b : Bool} {s : List Char} (h : String.ofList s ∈ spellings b) :
    Text.lowercase (Cell.bool b).display.toList = Text.lowercase s := by
  have hall : ∀ b, ∀ spelling ∈ spellings b,
      Text.lowercase (Cell.bool b).display.toList = Text.lowercase spelling.toList := by
    decide +kernel
  simpa using hall b _ h

/-! ### What the cell of a field reads as -/

namespace Typing

variable {raw : String} {c : Cell} (h : Typing raw c)
include h

theorem number?_eq : c.number? = (Cell.text raw).number? := by
  cases h with
  | blank hblank => simp only [number?, hblank, Decimal.readFinite?_nil]
  | truth hspelled => simp only [number?, (read_of_mem_spellings hspelled).1]
  | number hread =>
    have hfinite := (Option.filter_eq_some_iff.1 hread).2
    rw [number?, number?, hread, if_pos hfinite]
  | text => rfl

theorem moment?_eq : c.moment? = (Cell.text raw).moment? := by
  cases h with
  | blank hblank => simp only [moment?, Calendar.moment?, hblank, Calendar.recognize_nil]
  | truth hspelled =>
    simp only [moment?, Calendar.moment?, (read_of_mem_spellings hspelled).2.1]
  | number hread =>
    have hnumber : (Cell.text raw).number? = some _ := hread
    rw [moment?_of_number? hnumber]
    rfl
  | text => rfl

theorem isBlank_eq : c.isBlank = (Cell.text raw).isBlank := by
  cases h with
  | blank hblank => simp [isBlank, hblank]
  | truth hspelled => simp [isBlank, (read_of_mem_spellings hspelled).2.2]
  | number hread =>
    have hsome : trimmed raw ≠ [] := fun hnil => by
      rw [hnil, Decimal.readFinite?_nil] at hread
      contradiction
    simp [isBlank, hsome]
  | text => rfl

/-- The key is that of the text, unless there are blanks around it that the cell does not show. -/
theorem sortKey_eq (hraw : trimmed raw = raw.toList) :
    SortKey.ofCell c = SortKey.ofCell (Cell.text raw) := by
  rw [SortKey.ofCell, SortKey.ofCell, h.number?_eq, h.moment?_eq, h.isBlank_eq]
  cases h with
  | blank hblank => simp [isBlank, hblank]
  | truth hspelled => rw [lowercase_of_mem_spellings hspelled, hraw, display]
  | number hread => simp [number?, hread]
  | text => rfl

end Typing

theorem kind_ofCell (c : Cell) :
    (SortKey.ofCell c).kind =
      if c.number?.isSome then 0
      else if c.moment?.isSome then 1
      else if c.isBlank then 3 else 2 := by
  rw [SortKey.ofCell]
  cases c.number? <;> cases c.moment? <;> cases c.isBlank <;> rfl

/-- **Cells of fields are read as texts.** Every field is typed as a cell that reads as the same
number and the same date as the text of the field, is blank exactly if the text is, and so is of the
same rank. Two fields without blanks around them are typed as cells that compare as their texts
do. -/
theorem ofField_read_as_text :
    (∀ raw : String,
      (ofField raw).number? = (text raw).number? ∧ (ofField raw).moment? = (text raw).moment? ∧
        (ofField raw).isBlank = (text raw).isBlank ∧
        (SortKey.ofCell (ofField raw)).kind = (SortKey.ofCell (text raw)).kind) ∧
    ∀ raw raw' : String, trimmed raw = raw.toList → trimmed raw' = raw'.toList →
      (ofField raw).compare (ofField raw') = (text raw).compare (text raw') := by
  constructor
  · intro raw
    have h := typing_ofField raw
    refine ⟨h.number?_eq, h.moment?_eq, h.isBlank_eq, ?_⟩
    rw [kind_ofCell, kind_ofCell, h.number?_eq, h.moment?_eq, h.isBlank_eq]
  · intro raw raw' hraw hraw'
    rw [compare, compare, (typing_ofField raw).sortKey_eq hraw,
      (typing_ofField raw').sortKey_eq hraw']

/-- A truth value is the equal of a text that differs from it in the case of letters, before as
after the field is typed, and comes behind a number. -/
theorem ofField_read_as_text_truth :
    (trimmed "TRUE" = "TRUE".toList ∧ trimmed "tRue" = "tRue".toList ∧
        trimmed "1e3" = "1e3".toList) ∧
      ofField "TRUE" = .bool true ∧ ofField "tRue" = .text "tRue" ∧
      (ofField "TRUE").compare (ofField "tRue") = (text "TRUE").compare (text "tRue") ∧
      (text "TRUE").compare (text "tRue") = .eq ∧
      (ofField "TRUE").compare (ofField "1e3") = (text "TRUE").compare (text "1e3") ∧
      (text "TRUE").compare (text "1e3") = .gt := by
  have htrimmed : trimmed "TRUE" = "TRUE".toList ∧ trimmed "tRue" = "tRue".toList ∧
      trimmed "1e3" = "1e3".toList := by
    decide +kernel
  obtain ⟨htruth, htext, hnumber⟩ := htrimmed
  refine ⟨⟨htruth, htext, hnumber⟩, by decide +kernel, by decide +kernel, ?_, by decide +kernel, ?_,
    by decide +kernel⟩
  · exact ofField_read_as_text.2 "TRUE" "tRue" htruth htext
  · exact ofField_read_as_text.2 "TRUE" "1e3" htruth hnumber

end Cell

end Tabula

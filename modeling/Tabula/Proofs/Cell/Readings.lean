import Tabula.Cell.Order
import Tabula.Proofs.Calendar.Numeral
import Tabula.Proofs.Column.Kind

/-!
# A cell reads in one way

No numeral is a date, so a cell reads as a number, as a date, or as neither of them
(`Cell.number?_eq_none_or_moment?_eq_none`). Where both readings are tried one after the other, it
makes no difference which one comes first (`Reading.findSome?_eq`). `SortKey.tried` is the key of a
cell by the first reading that it has, and `Evidence.kindTried` the kind of a column by the first
reading that all its values have, with the readings in any order. They are the key that a cell is
compared by and the kind that a column has, as long as no reading is left out
(`Cell.reads_in_one_way`).

For a column this takes a value. What no value is evidence against is both numbers and dates, which
is why values are counted, and why the count is looked at before any reading is.
-/

namespace Tabula

/-- What a cell may be read as. -/
inductive Reading where
  /-- A finite number. -/
  | number
  /-- A moment. -/
  | moment
deriving DecidableEq

namespace Reading

/-- The key of a cell that has the reading. -/
def key? : Reading → Cell → Option SortKey
  | number, c => c.number?.map fun x => .number (Decimal.orderKey x)
  | moment, c => c.moment?.map fun m => .date m.rank

/-- The kind of a column all of whose values have the reading. -/
def kind? : Reading → Evidence → Option ColumnKind
  | number, e => if e.allNumbers then some .numeric else none
  | moment, e => if e.allMoments then some .temporal else none

end Reading

/-- The key of a cell by the first reading that it has. -/
def SortKey.tried (order : List Reading) (c : Cell) : SortKey :=
  (order.findSome? (·.key? c)).getD
    (if c.isBlank then .blank else .text (Text.lowercase c.display.toList))

/-- The kind of a column by the first reading that all its values have. -/
def Evidence.kindTried (order : List Reading) (e : Evidence) : ColumnKind :=
  if e.count = 0 then .categorical else (order.findSome? (·.kind? e)).getD .categorical

/-- The kind of a column by its values, with the readings tried in an order. -/
def Classifier.inferTried (order : List Reading) (c : Classifier) (d : Dataset) (column : String) :
    ColumnKind :=
  (c.gather {} (d.column column)).kindTried order

variable {order : List Reading}

/-- Of two readings that exclude each other, the one that applies is found in any order. -/
theorem Reading.findSome?_eq {β : Type} {f : Reading → Option β}
    (horder : ∀ reading, reading ∈ order) (hone : f number = none ∨ f moment = none) :
    order.findSome? f = (f number).or (f moment) := by
  cases hfound : order.findSome? f with
  | none =>
    have hnone := List.findSome?_eq_none_iff.1 hfound
    rw [hnone number (horder number), hnone moment (horder moment)]
    rfl
  | some b =>
    obtain ⟨reading, -, hreading⟩ := List.exists_of_findSome?_eq_some hfound
    cases reading with
    | number =>
      rw [hreading]
      rfl
    | moment =>
      have hnumber : f number = none := hone.resolve_right (by simp [hreading])
      rw [hnumber, hreading]
      rfl

/-! ### Cells -/

theorem SortKey.tried_eq (horder : ∀ reading, reading ∈ order) (c : Cell) :
    SortKey.tried order c = .ofCell c := by
  have hone : Reading.number.key? c = none ∨ Reading.moment.key? c = none :=
    c.number?_eq_none_or_moment?_eq_none.imp (fun h => by rw [Reading.key?, h]; rfl)
      fun h => by rw [Reading.key?, h]; rfl
  rw [tried, Reading.findSome?_eq horder hone, ofCell, Reading.key?, Reading.key?]
  cases c.number? with
  | some x => rfl
  | none => cases c.moment? <;> rfl

/-! ### Columns -/

/-- Values are evidence against numbers or against dates. -/
def Evidence.Single (e : Evidence) : Prop :=
  e.count ≠ 0 → e.allNumbers = false ∨ e.allMoments = false

theorem Evidence.single_add (e : Evidence) (value : Cell) : (e.add value).Single := by
  intro _
  rcases value.number?_eq_none_or_moment?_eq_none with hnumber | hmoment
  · left
    rw [add, hnumber]
    exact Bool.and_false _
  · right
    rw [add, hmoment]
    exact Bool.and_false _

/-- What is gathered is evidence of one reading at most, if it was so before. -/
theorem Evidence.Single.gather {e : Evidence} (he : e.Single) (c : Classifier) (cells : List Cell) :
    (c.gather e cells).Single := by
  induction cells generalizing e with
  | nil => exact he
  | cons cell rest ih =>
    rw [Classifier.gather]
    split
    · exact ih he
    · split
      · exact e.single_add cell
      · exact ih (e.single_add cell)

theorem Evidence.Single.kindTried_eq {e : Evidence} (he : e.Single)
    (horder : ∀ reading, reading ∈ order) : e.kindTried order = e.kind := by
  unfold kindTried kind
  by_cases hcount : e.count = 0
  · rw [if_pos hcount, if_pos hcount]
  · have hone : Reading.number.kind? e = none ∨ Reading.moment.kind? e = none :=
      (he hcount).imp (fun h => by rw [Reading.kind?, h]; rfl) fun h => by rw [Reading.kind?, h]; rfl
    rw [if_neg hcount, if_neg hcount, Reading.findSome?_eq horder hone, Reading.kind?, Reading.kind?]
    cases e.allNumbers with
    | true => rfl
    | false => cases e.allMoments <;> rfl

theorem Classifier.inferTried_eq (horder : ∀ reading, reading ∈ order) (c : Classifier)
    (d : Dataset) (column : String) : c.inferTried order d column = c.infer d column := by
  have hempty : Evidence.Single {} := fun h => absurd rfl h
  exact (hempty.gather c (d.column column)).kindTried_eq horder

theorem not_allNumbers_of_allMoments {values : List Cell} (h : AllMoments values) :
    ¬ AllNumbers values := by
  rintro ⟨-, hnumbers⟩
  obtain ⟨hsome, hmoments⟩ := h
  obtain ⟨value, hvalue⟩ := List.exists_mem_of_ne_nil values hsome
  obtain ⟨x, hx⟩ := Option.isSome_iff_exists.1 (hnumbers value hvalue)
  have hmoment := hmoments value hvalue
  rw [Cell.moment?_of_number? hx] at hmoment
  exact Bool.false_ne_true hmoment

/-- **One reading.** A cell that reads as a number does not read as a date. So there are no values
of which all read as numbers and all read as dates, and a column is temporal exactly if there are
values in it and all of them read as dates, where numbers need not be ruled out. The kind of a
column and the key that a cell is compared by do not depend on the order in which the readings are
tried, nor on how often they are. -/
theorem Cell.reads_in_one_way :
    (∀ (cell : Cell) (x : Float), cell.number? = some x → cell.moment? = none) ∧
    (∀ values : List Cell, ¬ (AllNumbers values ∧ AllMoments values)) ∧
    (∀ (c : Classifier) (d : Dataset) (column : String),
      c.infer d column = .temporal ↔ AllMoments (c.values d column)) ∧
    ∀ order : List Reading, (∀ reading, reading ∈ order) →
      (∀ (c : Classifier) (d : Dataset) (column : String),
        c.inferTried order d column = c.infer d column) ∧
      ∀ cell : Cell, SortKey.tried order cell = .ofCell cell := by
  refine ⟨fun cell x h => Cell.moment?_of_number? h, ?_, ?_, ?_⟩
  · rintro values ⟨hnumbers, hmoments⟩
    exact not_allNumbers_of_allMoments hmoments hnumbers
  · intro c d column
    rw [(c.infer_eq_iff d column).2.1]
    exact ⟨fun h => h.2, fun h => ⟨not_allNumbers_of_allMoments h, h⟩⟩
  · intro order horder
    exact ⟨Classifier.inferTried_eq horder, SortKey.tried_eq horder⟩

/-- A year is a number and no date, and dates make a temporal column, also where dates are tried
first. -/
theorem Cell.reads_in_one_way_datesFirst :
    let order : List Reading := [.moment, .number]
    let c : Classifier := {}
    (∀ reading, reading ∈ order) ∧
      (∃ x, (text " 2024 ").number? = some x) ∧ (text " 2024 ").moment? = none ∧
      SortKey.tried order (text " 2024 ") = .ofCell (text " 2024 ") ∧
      AllMoments (c.values Classifier.twoDates "joined") ∧
      c.inferTried order Classifier.twoDates "joined" = .temporal := by
  intro order c
  obtain ⟨hcell, -, htemporal, hany⟩ := Cell.reads_in_one_way
  have horder : ∀ reading, reading ∈ order := by
    intro reading
    cases reading <;> decide
  obtain ⟨x, hx⟩ : ∃ x, (text " 2024 ").number? = some x :=
    Option.isSome_iff_exists.1 (by decide +kernel)
  have hmoments : AllMoments (c.values Classifier.twoDates "joined") := by decide +kernel
  obtain ⟨hkind, hkey⟩ := hany order horder
  refine ⟨horder, ⟨x, hx⟩, hcell _ x hx, hkey _, hmoments, ?_⟩
  rw [hkind, htemporal]
  exact hmoments

end Tabula

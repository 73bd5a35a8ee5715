import Tabula.Proofs.Cell.Order

/-!
# Sorting is stable

A sort puts rows in the order of their cells and rows with a blank cell last, and leaves alone the
rows whose cells are equal: they stand in the order in which they stood (`Dataset.sorted_stable`).
Stability is what is lost first in the downward direction, where turning the result of an upward
sort round would give the right cells and the wrong rows.

All of it comes from one law of stable sorts: what is left of the sorted rows when some are taken
out is the sort of what is left of the rows (`filter_mergeSort`). Of equal rows alone, the sort is
those rows as they stood. The proof inserts the rows one by one; each has one place only, behind
those that come before it and in front of all others.
-/

namespace Tabula

/-! ### A sort and a selection -/

section Lines

variable {α : Type} {le : α → α → Bool}

/-- A line is cut in one way only into a part that passes a test and a part that fails it. -/
theorem parts_eq_of_append_eq {q : α → Bool} {l₁ l₂ m₁ m₂ : List α} (h : l₁ ++ l₂ = m₁ ++ m₂)
    (hl₁ : ∀ x ∈ l₁, q x = true) (hl₂ : ∀ x ∈ l₂, q x = false)
    (hm₁ : ∀ x ∈ m₁, q x = true) (hm₂ : ∀ x ∈ m₂, q x = false) : l₁ = m₁ ∧ l₂ = m₂ := by
  -- the first part is what the test leaves of the line
  have hpassing {k₁ k₂ : List α} (hk₁ : ∀ x ∈ k₁, q x = true) (hk₂ : ∀ x ∈ k₂, q x = false) :
      (k₁ ++ k₂).filter q = k₁ := by
    rw [List.filter_append, List.filter_eq_self.2 hk₁,
      List.filter_eq_nil_iff.2 fun x hx => by simp [hk₂ x hx], List.append_nil]
  have hfront : l₁ = m₁ := by
    rw [← hpassing hl₁ hl₂, h, hpassing hm₁ hm₂]
  subst hfront
  exact ⟨rfl, List.append_cancel_left h⟩

variable (trans : ∀ a b c, le a b = true → le b c = true → le a c = true)
  (total : ∀ a b, (le a b || le b a) = true)

include trans total

/-- Where the first element of a line goes when the line is sorted: behind those that it must not
stand in front of, and in front of the others. -/
theorem exists_mergeSort_cons (a : α) (l : List α) :
    ∃ l₁ l₂, (a :: l).mergeSort le = l₁ ++ a :: l₂ ∧ l.mergeSort le = l₁ ++ l₂ ∧
      (∀ b ∈ l₁, (!le a b) = true) ∧ ∀ b ∈ l₂, (!le a b) = false := by
  obtain ⟨l₁, l₂, hsort, hrest, hbefore⟩ := List.mergeSort_cons trans total a l
  refine ⟨l₁, l₂, hsort, hrest, hbefore, ?_⟩
  -- what stands behind it is in order with it
  intro b hb
  have hsorted := List.pairwise_mergeSort trans total (a :: l)
  rw [hsort, List.pairwise_append, List.pairwise_cons] at hsorted
  rw [hsorted.2.1.1 b hb]
  rfl

/-- **A sort and a selection.** It makes no difference whether a line is sorted first or some of its
elements are selected first. -/
theorem filter_mergeSort (p : α → Bool) (l : List α) :
    (l.mergeSort le).filter p = (l.filter p).mergeSort le := by
  induction l with
  | nil => rw [List.mergeSort_nil, List.filter_nil, List.mergeSort_nil]
  | cons a l ih =>
    obtain ⟨l₁, l₂, hsort, hrest, hbefore, hbehind⟩ := exists_mergeSort_cons trans total a l
    rw [hrest, List.filter_append] at ih
    rw [hsort, List.filter_append]
    by_cases hp : p a = true
    · -- `a` stands on both sides where it parts what must come before it from the others
      obtain ⟨m₁, m₂, hsort', hrest', hbefore', hbehind'⟩ :=
        exists_mergeSort_cons trans total a (l.filter p)
      have hparts : l₁.filter p = m₁ ∧ l₂.filter p = m₂ := by
        apply parts_eq_of_append_eq (q := fun b => !le a b) (ih.trans hrest')
        · intro b hb
          exact hbefore b (List.mem_filter.1 hb).1
        · intro b hb
          exact hbehind b (List.mem_filter.1 hb).1
        · exact hbefore'
        · exact hbehind'
      rw [List.filter_cons_of_pos hp, List.filter_cons_of_pos hp, hsort', hparts.1, hparts.2]
    · rw [List.filter_cons_of_neg hp, List.filter_cons_of_neg hp, ih]

/-- Selected elements that may all stand in front of each other keep their order. -/
theorem filter_mergeSort_of_tied {p : α → Bool} {l : List α}
    (hp : ∀ a b, p a = true → p b = true → le a b = true) :
    (l.mergeSort le).filter p = l.filter p := by
  rw [filter_mergeSort trans total]
  apply List.mergeSort_of_pairwise
  apply List.pairwise_of_forall_mem_list
  intro a ha b hb
  exact hp a b (List.mem_filter.1 ha).2 (List.mem_filter.1 hb).2

end Lines

/-! ### What may stand in front of what -/

namespace Cell

variable {direction : Direction} {a b : Cell}

/-- In front of a cell that is not blank there is no blank cell. -/
theorem isBlank_of_arrange (h : (arrange direction a b).isLE = true) (ha : a.isBlank = true) :
    b.isBlank = true := by
  cases hb : b.isBlank with
  | true => rfl
  | false => simp [arrange, ha, hb] at h

/-- Cells that are not blank are in the order that the direction says. -/
theorem arrange_of_not_isBlank (ha : a.isBlank = false) (hb : b.isBlank = false) :
    arrange direction a b =
      match direction with
      | .descending => b.compare a
      | .ascending => a.compare b := by
  cases direction <;> simp only [arrange, ha, hb]

/-- Equal cells may stand in front of each other, whatever the direction. -/
theorem arrange_eq_of_compare_eq (h : a.compare b = .eq) : arrange direction a b = .eq := by
  have hback : b.compare a = .eq := by
    rw [compare_swap, h]
    rfl
  -- a blank cell is equal to blank cells only
  by_cases ha : a.isBlank = true <;> by_cases hb : b.isBlank = true
  · simp only [arrange, ha, hb]
  · rw [compare_lt_of_isBlank (Bool.eq_false_iff.2 hb) ha] at hback
    exact absurd hback (by decide)
  · rw [compare_lt_of_isBlank (Bool.eq_false_iff.2 ha) hb] at h
    exact absurd h (by decide)
  · rw [arrange_of_not_isBlank (Bool.eq_false_iff.2 ha) (Bool.eq_false_iff.2 hb)]
    cases direction
    · exact hback
    · exact h

end Cell

namespace Row

/-- Whether a row may stand in front of another in the order of a column. -/
def mayPrecede (column : String) (direction : Direction) (row row' : Row) : Bool :=
  (Cell.arrange direction (Row.cell row column) (Row.cell row' column)).isLE

variable {column : String} {direction : Direction}

theorem mayPrecede_trans (a b c : Row) (hab : mayPrecede column direction a b = true)
    (hbc : mayPrecede column direction b c = true) : mayPrecede column direction a c = true :=
  have htrans : Std.TransCmp (Cell.arrange direction) := inferInstance
  htrans.isLE_trans hab hbc

theorem mayPrecede_total (a b : Row) :
    (mayPrecede column direction a b || mayPrecede column direction b a) = true := by
  rw [mayPrecede, mayPrecede, Cell.arrange_swap direction (Row.cell b column)]
  cases Cell.arrange direction (Row.cell a column) (Row.cell b column) <;> rfl

end Row

namespace Dataset

variable (d : Dataset) (column : String) (direction : Direction)

theorem rows_sorted :
    (d.sorted column direction).rows = d.rows.mergeSort (Row.mayPrecede column direction) := by
  rw [sorted_eq, rows_select]
  rfl

theorem pairwise_rows_sorted :
    (d.sorted column direction).rows.Pairwise fun row row' =>
      Row.mayPrecede column direction row row' = true := by
  rw [rows_sorted]
  exact List.pairwise_mergeSort Row.mayPrecede_trans Row.mayPrecede_total d.rows

/-- **A sort.** Sorting by a column, present or not, keeps the columns and the rows. Of two rows in
the result, the second has a blank cell if the first has one, and otherwise their cells are in
order: the lesser first in the upward direction, the greater first in the downward direction. The
rows whose cells are equal to some cell are the same before and after, in the same order; blank
cells are equal to each other. Without a direction the dataset stays as it is. -/
theorem sorted_stable :
    d.inOrderOf .unsorted = d ∧
    (d.inOrderOf (.sorted column direction)).columns = d.columns ∧
    (d.inOrderOf (.sorted column direction)).rows.Perm d.rows ∧
    ((d.inOrderOf (.sorted column direction)).rows.Pairwise fun row row' =>
      (Row.cell row column).isBlank = true → (Row.cell row' column).isBlank = true) ∧
    ((d.inOrderOf (.sorted column direction)).rows.Pairwise fun row row' =>
      (Row.cell row column).isBlank = false → (Row.cell row' column).isBlank = false →
        match direction with
        | .ascending => ((Row.cell row column).compare (Row.cell row' column)).isLE = true
        | .descending => ((Row.cell row column).compare (Row.cell row' column)).isGE = true) ∧
    ∀ c : Cell,
      (d.inOrderOf (.sorted column direction)).rows.filter
          (fun row => (Row.cell row column).compare c == .eq) =
        d.rows.filter fun row => (Row.cell row column).compare c == .eq := by
  refine ⟨rfl, rfl, d.rows_sorted_perm column direction, ?_, ?_, ?_⟩
  · apply (d.pairwise_rows_sorted column direction).imp
    intro row row' hrows
    exact Cell.isBlank_of_arrange hrows
  · apply (d.pairwise_rows_sorted column direction).imp
    intro row row' hrows hrow hrow'
    rw [Row.mayPrecede, Cell.arrange_of_not_isBlank hrow hrow'] at hrows
    cases direction
    · -- downwards the sides of the comparison are changed
      rw [Cell.compare_swap, Ordering.isGE_swap]
      exact hrows
    · exact hrows
  · intro c
    show (d.sorted column direction).rows.filter _ = _
    rw [rows_sorted]
    apply filter_mergeSort_of_tied Row.mayPrecede_trans Row.mayPrecede_total
    -- what is equal to `c` is equal to each other
    intro row row' hrow hrow'
    have hc : c.compare (Row.cell row' column) = .eq := by
      rw [Cell.compare_swap, eq_of_beq hrow']
      rfl
    have heq : (Row.cell row column).compare (Row.cell row' column) = .eq :=
      Std.TransCmp.eq_trans (eq_of_beq hrow) hc
    rw [Row.mayPrecede, Cell.arrange_eq_of_compare_eq heq]
    rfl

end Dataset

end Tabula

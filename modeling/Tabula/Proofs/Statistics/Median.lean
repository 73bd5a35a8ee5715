import Mathlib.Data.List.Perm.Basic
import Tabula.Statistics.Median

/-!
# The median of some numbers

`IsMedian` is the median as textbooks have it, with the numbers in order and as many of them before
the middle as behind it. There is one way only to put numbers in the total order
(`inOrder_eq_of_ordered`), since numbers of the same rank are the same, the two zeros being of
different ranks. So there is one median only, and it is the one that is computed
(`median?_eq_some_iff`), whatever the order in which the numbers come (`median?_eq_of_perm`).
-/

namespace Tabula

variable {values l : List Float} {m x y : Float}

/-! ### Numbers in the total order -/

/-- The numbers stand in the total order. -/
def Ordered (l : List Float) : Prop :=
  l.Pairwise fun x y => (Decimal.totalCompare x y).isLE = true

theorem isLE_totalCompare :
    (Decimal.totalCompare x y).isLE = true ↔ Decimal.orderKey x ≤ Decimal.orderKey y :=
  Std.isLE_compare

theorem eq_of_isLE_totalCompare (hxy : (Decimal.totalCompare x y).isLE = true)
    (hyx : (Decimal.totalCompare y x).isLE = true) : x = y := by
  rw [isLE_totalCompare] at hxy hyx
  have hbits : x.toBits = y.toBits := Decimal.toBits_eq_of_orderKey_eq (Int.le_antisymm hxy hyx)
  -- a number is its bits
  obtain ⟨⟨xbits, _⟩⟩ := x
  obtain ⟨⟨ybits, _⟩⟩ := y
  obtain rfl : xbits = ybits := hbits
  rfl

theorem inOrder_perm (values : List Float) : (inOrder values).Perm values :=
  List.mergeSort_perm values _

theorem ordered_inOrder (values : List Float) : Ordered (inOrder values) := by
  have hsorted : (inOrder values).Pairwise fun x y =>
      decide (Decimal.orderKey x ≤ Decimal.orderKey y) = true := by
    apply List.pairwise_mergeSort
    · intro x y z hxy hyz
      exact decide_eq_true (Int.le_trans (of_decide_eq_true hxy) (of_decide_eq_true hyz))
    · intro x y
      simpa using Int.le_total (Decimal.orderKey x) (Decimal.orderKey y)
  exact hsorted.imp fun h => isLE_totalCompare.2 (of_decide_eq_true h)

/-- Numbers are put in order in one way only. -/
theorem inOrder_eq_of_ordered (hl : Ordered l) (hperm : l.Perm values) : inOrder values = l :=
  ((inOrder_perm values).trans hperm.symm).eq_of_pairwise
    (fun _ _ _ _ hxy hyx => eq_of_isLE_totalCompare hxy hyx) (ordered_inOrder values) hl

/-! ### The median -/

/-- A number is the median of others: of these in order, the one that has as many before as behind
it, or half the sum of the two that have, as floating-point numbers add and divide. -/
inductive IsMedian (values : List Float) : Float → Prop
  /-- The one in the middle, of an odd number of them. -/
  | middle {before after : List Float} {m : Float} (hhalves : before.length = after.length)
      (hordered : Ordered (before ++ m :: after)) (hperm : (before ++ m :: after).Perm values) :
      IsMedian values m
  /-- Half the sum of the two in the middle, of an even number of them. -/
  | halfSum {before after : List Float} {x y : Float} (hhalves : before.length = after.length)
      (hordered : Ordered (before ++ x :: y :: after))
      (hperm : (before ++ x :: y :: after).Perm values) : IsMedian values ((x + y) / 2.0)

theorem IsMedian.median?_eq_some (h : IsMedian values m) : median? values = some m := by
  cases h with
  | @middle before after m hhalves hordered hperm =>
    have hsize : (before ++ m :: after).length = 2 * before.length + 1 := by
      rw [List.length_append, List.length_cons]
      omega
    have hmiddle : (2 * before.length + 1) / 2 = before.length := by omega
    -- put in order, the numbers are these, so the middle is where the halves meet
    rw [median?, inOrder_eq_of_ordered hordered hperm]
    simp only [List.size_toArray, List.getElem?_toArray, hsize, hmiddle]
    rw [if_neg (by omega), List.getElem?_append_right (Nat.le_refl _), Nat.sub_self,
      List.getElem?_cons_zero]
  | @halfSum before after x y hhalves hordered hperm =>
    have hsize : (before ++ x :: y :: after).length = 2 * (before.length + 1) := by
      rw [List.length_append, List.length_cons, List.length_cons]
      omega
    have hmiddle : 2 * (before.length + 1) / 2 = before.length + 1 := by omega
    rw [median?, inOrder_eq_of_ordered hordered hperm]
    simp only [List.size_toArray, List.getElem?_toArray, hsize, hmiddle]
    rw [if_pos (by omega), Nat.add_sub_cancel, List.getElem?_append_right (Nat.le_refl _),
      List.getElem?_append_right (Nat.le_succ _), Nat.sub_self, Nat.succ_eq_add_one,
      Nat.add_sub_cancel_left]
    rfl

theorem exists_isMedian (hne : values ≠ []) : ∃ m, IsMedian values m := by
  have hperm := inOrder_perm values
  have hordered := ordered_inOrder values
  have hpos : 0 < (inOrder values).length := hperm.length_eq ▸ List.length_pos_iff.2 hne
  generalize inOrder values = sorted at hperm hordered hpos
  -- cut off the first half, without the one in the middle or the first of the two
  obtain ⟨k, hk⟩ : ∃ k, k = (sorted.length - 1) / 2 := ⟨_, rfl⟩
  have hfront : (sorted.take k).length = k := List.length_take_of_le (by omega)
  have hcut : sorted = sorted.take k ++ sorted[k] :: sorted.drop (k + 1) := by
    rw [← List.drop_eq_getElem_cons, List.take_append_drop]
  by_cases hparity : sorted.length % 2 = 1
  · rw [hcut] at hordered hperm
    refine ⟨_, .middle ?_ hordered hperm⟩
    rw [hfront, List.length_drop]
    omega
  · have hcut' : sorted.drop (k + 1) = sorted[k + 1] :: sorted.drop (k + 1 + 1) :=
      List.drop_eq_getElem_cons (by omega)
    rw [hcut'] at hcut
    rw [hcut] at hordered hperm
    refine ⟨_, .halfSum ?_ hordered hperm⟩
    rw [hfront, List.length_drop]
    omega

/-- The median that is computed is the median. -/
theorem median?_eq_some_iff : median? values = some m ↔ IsMedian values m := by
  refine ⟨fun h => ?_, IsMedian.median?_eq_some⟩
  by_cases hne : values = []
  · subst hne
    exact absurd h (by simp [median?, inOrder])
  · obtain ⟨m', hm'⟩ := exists_isMedian hne
    rw [hm'.median?_eq_some, Option.some.injEq] at h
    exact h ▸ hm'

/-- The order in which numbers come has no influence on their median. -/
theorem median?_eq_of_perm {values' : List Float} (h : values'.Perm values) :
    median? values' = median? values := by
  have hsorted : inOrder values' = inOrder values :=
    inOrder_eq_of_ordered (ordered_inOrder values) ((inOrder_perm values).trans h.symm)
  rw [median?, hsorted, median?]

end Tabula

import Mathlib.Algebra.Order.Floor.Div
import Mathlib.Data.List.Induction
import Mathlib.Tactic.GCongr

/-!
# Elements at the multiples of a stride

`everyNth` takes the elements of a line that stand at the multiples of a stride. There are as many
as begun strides, which is a division rounded up (`length_everyNth`).

When the stride is itself the length divided by some limit and rounded down, the two roundings do
not add up: the elements taken are as many as the limit at least (`le_ceilDiv_div`), and fewer than
twice as many (`ceilDiv_div_le`), however long the line is.
-/

namespace Tabula

/-! ### Division, rounded down and up -/

section Rounding

variable {n d limit : Nat}

theorem lt_ceilDiv_iff (hd : 0 < d) {k : Nat} : k < n ⌈/⌉ d ↔ d * k < n := by
  rw [← Nat.not_le, ceilDiv_le_iff_le_mul hd, Nat.not_le]

theorem succ_ceilDiv (hd : 0 < d) (n : Nat) :
    (n + 1) ⌈/⌉ d = n ⌈/⌉ d + if n % d = 0 then 1 else 0 := by
  have hdvd : d ∣ n + d ↔ n % d = 0 := by
    rw [Nat.dvd_add_self_right, Nat.dvd_iff_mod_eq_zero]
  calc (n + 1) ⌈/⌉ d
      = (n + d - 1 + 1) / d := by
        rw [Nat.ceilDiv_eq_add_pred_div]
        congr 1
        omega
    _ = (n + d - 1) / d + if d ∣ n + d - 1 + 1 then 1 else 0 := Nat.succ_div
    _ = n ⌈/⌉ d + if n % d = 0 then 1 else 0 := by
        rw [Nat.sub_add_cancel (by omega), if_congr hdvd rfl rfl, Nat.ceilDiv_eq_add_pred_div]

/-- As many pieces as the limit are full ones. -/
theorem le_ceilDiv_div (hlimit : 0 < limit) (h : limit < n) : limit ≤ n ⌈/⌉ (n / limit) := by
  have hd : 0 < n / limit := Nat.div_pos h.le hlimit
  -- all pieces but the last are full ones within `n`
  apply Nat.le_of_pred_lt
  rw [lt_ceilDiv_iff hd]
  calc n / limit * (limit - 1)
      < n / limit * limit := Nat.mul_lt_mul_of_pos_left (by omega) hd
    _ ≤ n := Nat.div_mul_le_self n limit

/-- What the limit does not divide fills fewer than as many pieces again. -/
theorem ceilDiv_div_le (hlimit : 0 < limit) (h : limit < n) :
    n ⌈/⌉ (n / limit) ≤ 2 * limit - 1 := by
  have hd : 0 < n / limit := Nat.div_pos h.le hlimit
  have hrest : n % limit < limit := Nat.mod_lt n hlimit
  have hsplit : 2 * limit - 1 = limit + (limit - 1) := by omega
  rw [ceilDiv_le_iff_le_mul hd]
  calc n = n / limit * limit + n % limit := (Nat.div_add_mod' n limit).symm
    _ ≤ n / limit * limit + (limit - 1) := by omega
    _ ≤ n / limit * limit + n / limit * (limit - 1) := by
        gcongr
        exact Nat.le_mul_of_pos_left _ hd
    _ = n / limit * (2 * limit - 1) := by rw [hsplit, Nat.mul_add]

end Rounding

/-! ### The elements at the multiples of a stride -/

section Strides

variable {α : Type} {stride : Nat}

/-- The elements of a line whose positions, counted from zero, are multiples of a stride. -/
def everyNth (stride : Nat) (l : List α) : List α :=
  (l.zipIdx.filter fun p => p.2 % stride = 0).map Prod.fst

@[simp] theorem everyNth_nil : everyNth stride ([] : List α) = [] := rfl

theorem everyNth_concat (stride : Nat) (l : List α) (a : α) :
    everyNth stride (l ++ [a]) =
      if l.length % stride = 0 then everyNth stride l ++ [a] else everyNth stride l := by
  rw [everyNth, List.zipIdx_append, List.filter_append, List.map_append, ← everyNth]
  by_cases h : l.length % stride = 0 <;> simp [h]

theorem everyNth_one (l : List α) : everyNth 1 l = l := by
  induction l using List.reverseRecOn with
  | nil => rfl
  | append_singleton l a ih => rw [everyNth_concat, if_pos (Nat.mod_one _), ih]

theorem everyNth_sublist (stride : Nat) (l : List α) : (everyNth stride l).Sublist l := by
  have hsub : (everyNth stride l).Sublist (l.zipIdx.map Prod.fst) := List.filter_sublist.map _
  rwa [List.zipIdx_map_fst] at hsub

theorem length_everyNth (hstride : 0 < stride) (l : List α) :
    (everyNth stride l).length = l.length ⌈/⌉ stride := by
  induction l using List.reverseRecOn with
  | nil => rw [everyNth_nil, List.length_nil, zero_ceilDiv]
  | append_singleton l a ih =>
    rw [everyNth_concat, List.length_append, List.length_singleton, succ_ceilDiv hstride, ← ih]
    split
    · rw [List.length_append, List.length_singleton]
    · rfl

theorem getElem?_concat (l : List α) (a : α) (k : Nat) :
    (l ++ [a])[k]? = if k = l.length then some a else l[k]? := by
  rcases Nat.lt_trichotomy k l.length with hk | rfl | hk
  · rw [List.getElem?_append_left hk, if_neg hk.ne]
  · rw [List.getElem?_concat_length, if_pos rfl]
  · have hend : (l ++ [a]).length ≤ k := by
      rw [List.length_append, List.length_singleton]
      exact hk
    rw [if_neg hk.ne', List.getElem?_eq_none hend, List.getElem?_eq_none hk.le]

/-- What was taken is counted one by one, what it was taken from in strides. -/
theorem getElem?_everyNth (hstride : 0 < stride) (l : List α) (k : Nat) :
    (everyNth stride l)[k]? = l[stride * k]? := by
  induction l using List.reverseRecOn with
  | nil => rfl
  | append_singleton l a ih =>
    rw [everyNth_concat, getElem?_concat l]
    by_cases hmod : l.length % stride = 0
    · obtain ⟨q, hq⟩ := Nat.dvd_of_mod_eq_zero hmod
      have hlength : (everyNth stride l).length = q := by
        rw [length_everyNth hstride, hq, ← smul_eq_mul, smul_ceilDiv hstride]
      have hlast : k = (everyNth stride l).length ↔ stride * k = l.length := by
        rw [hlength, hq, Nat.mul_right_inj hstride.ne']
      rw [if_pos hmod, getElem?_concat, if_congr hlast rfl rfl, ih]
    · -- the last element stands at no multiple
      have hne : stride * k ≠ l.length := fun h => hmod (h ▸ Nat.mul_mod_right stride k)
      rw [if_neg hmod, if_neg hne, ih]

-- Of seven elements, a stride of three takes the first, the fourth and the seventh.
example : everyNth 3 [0, 1, 2, 3, 4, 5, 6] = [0, 3, 6] := by decide

end Strides

end Tabula

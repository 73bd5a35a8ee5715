import Mathlib.Data.List.Induction
import Mathlib.Data.List.Nodup

/-!
# Elements in the order of their first occurrence

`List.eraseDups` keeps the first occurrence of every element. One more element at the end of a line
comes in if it is new and is dropped if it is not (`eraseDups_concat`).
-/

namespace Tabula

variable {α : Type} [DecidableEq α]

theorem eraseDups_concat (l : List α) (a : α) :
    (l ++ [a]).eraseDups = if a ∈ l then l.eraseDups else l.eraseDups ++ [a] := by
  rw [List.eraseDups_append, List.cons_removeAll, List.nil_removeAll]
  by_cases h : a ∈ l
  · simp [h]
  · simp [h, List.eraseDups_cons]

theorem nodup_eraseDups (l : List α) : l.eraseDups.Nodup := by
  induction l using List.reverseRecOn with
  | nil => exact List.nodup_nil
  | append_singleton l a ih =>
    rw [eraseDups_concat]
    split
    · exact ih
    · next h => simpa using List.Nodup.concat (by simpa using h) ih

end Tabula

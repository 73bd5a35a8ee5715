import Tabula.OrderedMap
import Tabula.Proofs.Distinct

/-!
# Maps made of entries

`OrderedMap.ofList` takes entries in one after the other. A key stands where it first came
(`keys_ofList`) and has the value that came last (`get?_ofList`), so entries are kept as they are
when their keys are distinct (`entries_ofList`), and only then, since a map has no key twice.
-/

namespace Tabula.OrderedMap

variable {α β : Type}

theorem ofList_concat (entries : List (String × α)) (e : String × α) :
    ofList (entries ++ [e]) = (ofList entries).insert e.1 e.2 := by
  rw [ofList, List.foldl_concat, ofList]

/-- A key stands where it first came. -/
theorem keys_ofList (entries : List (String × α)) :
    (ofList entries).keys = (entries.map Prod.fst).eraseDups := by
  induction entries using List.reverseRecOn with
  | nil => rfl
  | append_singleton entries e ih =>
    have hmem : e.1 ∈ (ofList entries).keys ↔ e.1 ∈ entries.map Prod.fst := by
      rw [ih, List.mem_eraseDups]
    rw [ofList_concat, List.map_append, List.map_singleton, eraseDups_concat, ← ih]
    split
    · next h => exact keys_insert_of_mem _ (hmem.2 h)
    · next h => exact keys_insert_of_not_mem _ (mt hmem.1 h)

/-- A key has the value that came last. -/
theorem get?_ofList (entries : List (String × α)) (key : String) :
    (ofList entries).get? key = entries.reverse.lookup key := by
  induction entries using List.reverseRecOn with
  | nil => rfl
  | append_singleton entries e ih =>
    rw [ofList_concat, List.reverse_concat, List.lookup_cons]
    by_cases h : key = e.1
    · simp [h]
    · have hne : (key == e.1) = false := by simpa using h
      rw [get?_insert_of_ne _ _ h, hne, ih]

theorem entries_insert_of_not_mem {m : OrderedMap α} {key : String} (value : α)
    (h : key ∉ m.keys) : (m.insert key value).entries = m.entries ++ [(key, value)] := by
  have h' : key ∉ m.entries.map Prod.fst := h
  rw [insert, dif_neg h']

/-- Entries under distinct keys are kept as they are. -/
theorem entries_ofList {entries : List (String × α)} (h : (entries.map Prod.fst).Nodup) :
    (ofList entries).entries = entries := by
  induction entries using List.reverseRecOn with
  | nil => rfl
  | append_singleton entries e ih =>
    rw [List.map_append, List.map_singleton, List.nodup_append] at h
    obtain ⟨hfirst, -, hnew⟩ := h
    rw [ofList_concat, entries_insert_of_not_mem, ih hfirst]
    rw [keys_ofList, List.mem_eraseDups]
    exact fun hmem => hnew _ hmem _ List.mem_cons_self rfl

/-- A map is made of its own entries. -/
theorem ofList_entries (m : OrderedMap α) : ofList m.entries = m := by
  have hentries := entries_ofList m.nodup
  cases hmap : ofList m.entries with
  | mk entries nodup =>
    rw [hmap] at hentries
    cases m
    simp only at hentries
    simp only [hentries]

/-- Values may be changed before or after they are looked up. -/
theorem lookup_map (f : α → β) (entries : List (String × α)) (key : String) :
    (entries.map fun e => (e.1, f e.2)).lookup key = (entries.lookup key).map f := by
  induction entries with
  | nil => rfl
  | cons e entries ih =>
    rw [List.map_cons, List.lookup_cons, List.lookup_cons]
    cases key == e.1
    · exact ih
    · rfl

end Tabula.OrderedMap

/-!
# Maps in order of arrival

An `OrderedMap` holds values under texts, each text once, in the order in which the texts first
arrived. `insert` puts a new key at the end and gives a present key a new value in its old place, so
repeated keys keep the first position and the last value.

The map is seen through `keys` and `get?`: `insert` changes the value of its own key only
(`get?_insert_self`, `get?_insert_of_ne`) and moves no key (`keys_insert_of_mem`).
-/

namespace Tabula

/-- Values under distinct texts, in order of arrival. -/
structure OrderedMap (α : Type) where
  /-- The keys and values, oldest key first. -/
  entries : List (String × α)
  /-- No key occurs twice. -/
  nodup : (entries.map Prod.fst).Nodup
deriving DecidableEq, Repr

namespace OrderedMap

variable {α β : Type}

instance : EmptyCollection (OrderedMap α) := ⟨⟨[], by simp⟩⟩

instance : Inhabited (OrderedMap α) := ⟨∅⟩

/-- The keys, oldest first. -/
def keys (m : OrderedMap α) : List String :=
  m.entries.map Prod.fst

/-- The number of keys. -/
def size (m : OrderedMap α) : Nat :=
  m.entries.length

/-- The value under a key. -/
def get? (m : OrderedMap α) (key : String) : Option α :=
  m.entries.lookup key

/-- The entries with `value` in place of what stands under `key`. -/
def replaced (key : String) (value : α) (entries : List (String × α)) : List (String × α) :=
  entries.map fun e => if e.1 = key then (key, value) else e

theorem map_fst_replaced (key : String) (value : α) (entries : List (String × α)) :
    (replaced key value entries).map Prod.fst = entries.map Prod.fst := by
  simp only [replaced, List.map_map]
  apply List.map_congr_left
  intro e _
  simp only [Function.comp_apply]
  split <;> simp_all

/-- The map with a value under a key: in place if the key is there, at the end if not. -/
def insert (m : OrderedMap α) (key : String) (value : α) : OrderedMap α :=
  if h : key ∈ m.entries.map Prod.fst then
    ⟨replaced key value m.entries, by rw [map_fst_replaced]; exact m.nodup⟩
  else
    ⟨m.entries ++ [(key, value)], by
      rw [List.map_append, List.nodup_append]
      refine ⟨m.nodup, by simp, ?_⟩
      rintro a ha b hb rfl
      simp at hb
      exact h (hb ▸ ha)⟩

/-- The map that takes in the entries one after the other. -/
def ofList (entries : List (String × α)) : OrderedMap α :=
  entries.foldl (fun m e => m.insert e.1 e.2) ∅

/-! ### The view of each operation -/

@[simp] theorem keys_empty : (∅ : OrderedMap α).keys = [] := rfl

@[simp] theorem get?_empty (key : String) : (∅ : OrderedMap α).get? key = none := rfl

theorem nodup_keys (m : OrderedMap α) : m.keys.Nodup := m.nodup

/-- Writing to a present key moves nothing. -/
theorem keys_insert_of_mem {m : OrderedMap α} {key : String} (value : α) (h : key ∈ m.keys) :
    (m.insert key value).keys = m.keys := by
  have h' : key ∈ m.entries.map Prod.fst := h
  simp [insert, h', keys, map_fst_replaced]

/-- A new key goes to the end. -/
theorem keys_insert_of_not_mem {m : OrderedMap α} {key : String} (value : α) (h : key ∉ m.keys) :
    (m.insert key value).keys = m.keys ++ [key] := by
  have h' : key ∉ m.entries.map Prod.fst := h
  simp only [insert, dif_neg h', keys, List.map_append, List.map_cons, List.map_nil]

theorem lookup_replaced_self {key : String} (value : α) {entries : List (String × α)}
    (h : key ∈ entries.map Prod.fst) : (replaced key value entries).lookup key = some value := by
  induction entries with
  | nil => simp at h
  | cons e l ih =>
    obtain ⟨k, v⟩ := e
    by_cases he : k = key
    · simp [replaced, he]
    · have hne : (key == k) = false := by simpa using Ne.symm he
      have hmem : key ∈ l.map Prod.fst := by
        simp only [List.map_cons, List.mem_cons] at h
        exact h.resolve_left (Ne.symm he)
      have := ih hmem
      simp only [replaced, List.map_cons, if_neg he, List.lookup_cons, hne] at this ⊢
      exact this

theorem lookup_replaced_of_ne {key other : String} (value : α) {entries : List (String × α)}
    (h : other ≠ key) : (replaced key value entries).lookup other = entries.lookup other := by
  induction entries with
  | nil => rfl
  | cons e l ih =>
    obtain ⟨k, v⟩ := e
    simp only [replaced] at ih
    by_cases he : k = key
    · have h₁ : (other == key) = false := by simpa using h
      subst he
      simp only [replaced, List.map_cons, if_true, List.lookup_cons, h₁]
      exact ih
    · simp only [replaced, List.map_cons, if_neg he, List.lookup_cons]
      split
      · rfl
      · exact ih

theorem lookup_append_of_not_mem {key : String} {l l' : List (String × α)}
    (h : key ∉ l.map Prod.fst) : (l ++ l').lookup key = l'.lookup key := by
  induction l with
  | nil => rfl
  | cons e l ih =>
    obtain ⟨k, v⟩ := e
    simp only [List.map_cons, List.mem_cons, not_or] at h
    have hne : (key == k) = false := by simpa using h.1
    simp only [List.cons_append, List.lookup_cons, hne]
    exact ih h.2

theorem lookup_append_single_of_ne {key other : String} (value : α) {l : List (String × α)}
    (h : other ≠ key) : (l ++ [(key, value)]).lookup other = l.lookup other := by
  have hne : (other == key) = false := by simpa using h
  induction l with
  | nil => simp [List.lookup_cons, hne]
  | cons e l ih =>
    obtain ⟨k, v⟩ := e
    simp only [List.cons_append, List.lookup_cons]
    split
    · rfl
    · exact ih

@[simp] theorem get?_insert_self (m : OrderedMap α) (key : String) (value : α) :
    (m.insert key value).get? key = some value := by
  by_cases h : key ∈ m.entries.map Prod.fst
  · simp only [insert, dif_pos h, get?]
    exact lookup_replaced_self value h
  · simp only [insert, dif_neg h, get?]
    rw [lookup_append_of_not_mem h]
    simp

theorem get?_insert_of_ne (m : OrderedMap α) {key other : String} (value : α) (h : other ≠ key) :
    (m.insert key value).get? other = m.get? other := by
  by_cases hk : key ∈ m.entries.map Prod.fst
  · simp only [insert, dif_pos hk, get?]
    exact lookup_replaced_of_ne value h
  · simp only [insert, dif_neg hk, get?]
    exact lookup_append_single_of_ne value h

end OrderedMap

end Tabula

import Tabula.Text.Ranges

/-!
# Blank characters and trimming

A character is *blank* when it has the Unicode property White_Space. `trim` drops the blanks at
both ends of a text and keeps those between. A trimmed text neither starts nor ends with a blank
(`trim_head`, `trim_getLast`), so trimming again changes nothing (`trim_trim`). What is not blank
stays (`filter_trim`).
-/

namespace Tabula.Text

/-- The 25 code points of White_Space. -/
def blankRanges : List (Nat × Nat) :=
  [(0x09, 0x0D), (0x20, 0x20), (0x85, 0x85), (0xA0, 0xA0), (0x1680, 0x1680), (0x2000, 0x200A),
   (0x2028, 0x2029), (0x202F, 0x202F), (0x205F, 0x205F), (0x3000, 0x3000)]

/-- Whether a character is white space. -/
def isBlank (c : Char) : Bool :=
  inRanges blankRanges c.toNat

/-- The text without its leading blanks. -/
def trimStart (s : List Char) : List Char :=
  s.dropWhile isBlank

/-- The text without its trailing blanks. -/
def trimEnd (s : List Char) : List Char :=
  (s.reverse.dropWhile isBlank).reverse

/-- The text without the blanks at its two ends. -/
def trim (s : List Char) : List Char :=
  trimEnd (trimStart s)

/-- The text of a string without the blanks at its two ends. -/
def trimmed (s : String) : List Char :=
  trim s.toList

/-! ### What trimming leaves -/

theorem trimStart_head {c : Char} {s t : List Char} (h : trimStart s = c :: t) :
    isBlank c = false := by
  induction s with
  | nil => simp [trimStart] at h
  | cons d s ih =>
    simp only [trimStart, List.dropWhile_cons] at h ih
    split at h
    · exact ih h
    · rename_i hd
      obtain ⟨rfl, rfl⟩ := List.cons.inj h
      simpa using hd

theorem trimStart_eq_self {s : List Char} (h : ∀ c t, s = c :: t → isBlank c = false) :
    trimStart s = s := by
  cases s with
  | nil => rfl
  | cons c t => simp [trimStart, h c t rfl]

theorem trimEnd_eq (s : List Char) : trimEnd s = (trimStart s.reverse).reverse := rfl

/-- Trimming the end leaves a text that is an initial part. -/
theorem trimEnd_initial (s : List Char) : trimEnd s <+: s := by
  have h := List.dropWhile_suffix isBlank (l := s.reverse)
  rw [trimEnd, ← List.reverse_reverse s]
  simpa using List.reverse_prefix.mpr h

theorem trim_head {c : Char} {s t : List Char} (h : trim s = c :: t) : isBlank c = false := by
  obtain ⟨u, hu⟩ := trimEnd_initial (trimStart s)
  have hs : trimStart s = c :: (t ++ u) := by
    rw [← hu]
    simp only [trim] at h
    rw [h]
    rfl
  exact trimStart_head hs

theorem trim_getLast {c : Char} {s t : List Char} (h : trim s = t ++ [c]) : isBlank c = false := by
  have h' : trimStart (trimStart s).reverse = c :: t.reverse := by
    have := congrArg List.reverse h
    simpa [trim, trimEnd_eq] using this
  exact trimStart_head h'

/-- A text that neither starts nor ends with a blank is its own trim. -/
theorem trim_eq_self {s : List Char} (hs : ∀ c t, s = c :: t → isBlank c = false)
    (he : ∀ c t, s = t ++ [c] → isBlank c = false) : trim s = s := by
  rw [trim, trimStart_eq_self hs, trimEnd_eq, trimStart_eq_self, List.reverse_reverse]
  intro c t h
  apply he c t.reverse
  have := congrArg List.reverse h
  simpa using this

theorem trim_trim (s : List Char) : trim (trim s) = trim s :=
  trim_eq_self (fun _ _ h => trim_head h) (fun _ _ h => trim_getLast h)

/-- A blank at the end of a text is trimmed with the others. -/
theorem trim_append_blank {b : Char} (hb : isBlank b = true) (s : List Char) :
    trim (s ++ [b]) = trim s := by
  have hstart : trimStart (s ++ [b]) = trimStart s ++ [b] ∨
      trimStart (s ++ [b]) = [] ∧ trimStart s = [] := by
    unfold trimStart
    rw [List.dropWhile_append]
    cases h : s.dropWhile isBlank with
    | nil => exact .inr (by simp [hb])
    | cons c t => exact .inl (by simp)
  unfold trim
  rcases hstart with h | ⟨h, h'⟩
  · rw [h]
    simp [trimEnd, hb]
  · rw [h, h']

theorem trim_blank_cons {b : Char} (hb : isBlank b = true) (s : List Char) :
    trim (b :: s) = trim s := by
  simp [trim, trimStart, hb]

/-! ### What trimming keeps -/

theorem length_trim_le (s : List Char) : (trim s).length ≤ s.length :=
  Nat.le_trans (trimEnd_initial _).length_le (List.dropWhile_suffix isBlank).length_le

theorem filter_trimStart (s : List Char) :
    (trimStart s).filter (!isBlank ·) = s.filter (!isBlank ·) := by
  induction s with
  | nil => rfl
  | cons c s ih => cases hc : isBlank c <;> simp_all [trimStart]

/-- Trimming drops blanks only. -/
theorem filter_trim (s : List Char) : (trim s).filter (!isBlank ·) = s.filter (!isBlank ·) := by
  rw [trim, trimEnd_eq, List.filter_reverse, filter_trimStart, List.filter_reverse,
    List.reverse_reverse, filter_trimStart]

theorem mem_trim_iff {c : Char} (hc : isBlank c = false) {s : List Char} : c ∈ trim s ↔ c ∈ s := by
  have h := congrArg (c ∈ ·) (filter_trim s)
  simpa [hc] using h

end Tabula.Text

import Tabula.Decimal.Reader

/-!
# The characters of numerals

A text that reads as a number consists of digits, signs, points and the letters of `inf`, `nan` and
`e`, and of nothing else (`isNumeral_of_read?`).

A text that reads as a finite number is none of these words, but a decimal number behind an optional
sign (`exists_scaled?_of_readFinite?`). It begins with a digit or a point (`head_of_scaled?`), and
its leading digits end at a point, at the mark of an exponent, or with the text
(`endsDigits_of_scaled?`).
-/

namespace Tabula.Decimal

variable {s : List Char}

/-- Whether a character may stand in a numeral. -/
def isNumeral (c : Char) : Bool :=
  c.isDigit || "+-.einfaty".toList.contains c.toLower

theorem isNumeral_of_isDigit {c : Char} (h : c.isDigit = true) : isNumeral c = true := by
  rw [isNumeral, h, Bool.true_or]

theorem isNumeral_of_mem_splitSign (h : ∀ c ∈ (splitSign s).2, isNumeral c = true) :
    ∀ c ∈ s, isNumeral c = true := by
  unfold splitSign at h
  split at h
  · exact List.forall_mem_cons.2 ⟨by decide, h⟩
  · exact List.forall_mem_cons.2 ⟨by decide, h⟩
  · exact h

/-- What begins with digits consists of numeral characters if the rest does. -/
theorem isNumeral_of_afterDigits (h : ∀ c ∈ afterDigits s, isNumeral c = true) :
    ∀ c ∈ s, isNumeral c = true := by
  intro c hc
  rw [← List.takeWhile_append_dropWhile (p := Char.isDigit) (l := s)] at hc
  rcases List.mem_append.1 hc with hc | hc
  · exact isNumeral_of_isDigit (List.all_eq_true.1 List.all_takeWhile c hc)
  · exact h c hc

theorem isNumeral_of_exponent? {e : Int} (h : exponent? s = some e) :
    ∀ c ∈ s, isNumeral c = true := by
  cases s with
  | nil => simp
  | cons c s =>
    rw [exponent?] at h
    split at h
    · next hmark =>
      refine List.forall_mem_cons.2 ⟨?_, ?_⟩
      · simp only [Bool.or_eq_true, decide_eq_true_eq] at hmark
        rcases hmark with rfl | rfl <;> decide
      · apply isNumeral_of_mem_splitSign
        simp only at h
        split at h
        · next hdigits =>
          have hall := List.all_eq_true.1 (Bool.and_eq_true_iff.1 hdigits).2
          exact fun d hd => isNumeral_of_isDigit (hall d hd)
        · exact absurd h (by simp)
    · exact absurd h (by simp)

theorem isNumeral_of_scaled? {d : Scaled} (h : scaled? s = some d) :
    ∀ c ∈ s, isNumeral c = true := by
  apply isNumeral_of_afterDigits
  rw [scaled?] at h
  simp only at h
  split at h
  · exact absurd h (by simp)
  · obtain ⟨e, he, -⟩ := Option.bind_eq_some_iff.1 h
    have hrest := isNumeral_of_exponent? he
    unfold splitFraction at hrest
    split at hrest
    · next t ht =>
      rw [ht]
      refine List.forall_mem_cons.2 ⟨by decide, isNumeral_of_afterDigits hrest⟩
    · exact hrest

theorem isNumeral_of_unsigned? {u : Unsigned} (h : unsigned? s = some u) :
    ∀ c ∈ s, isNumeral c = true := by
  have hword : ∀ word ∈ ["nan", "inf", "infinity"], Text.asciiLower s = word.toList →
      ∀ c ∈ s, isNumeral c = true := by
    intro word hword hs c hc
    have hlower : c.toLower ∈ word.toList := hs ▸ List.mem_map_of_mem hc
    have hletters : ∀ word ∈ ["nan", "inf", "infinity"],
        ∀ d ∈ word.toList, "+-.einfaty".toList.contains d = true := by simp
    rw [isNumeral, hletters word hword _ hlower, Bool.or_true]
  rw [unsigned?] at h
  split at h
  · next hs => exact hword "nan" (by decide) hs
  · split at h
    · next hs =>
      rcases hs with hs | hs
      · exact hword "inf" (by decide) hs
      · exact hword "infinity" (by decide) hs
    · obtain ⟨d, hd, -⟩ := Option.map_eq_some_iff.1 h
      exact isNumeral_of_scaled? hd

theorem isNumeral_of_read? {x : Float} (h : read? s = some x) : ∀ c ∈ s, isNumeral c = true := by
  apply isNumeral_of_mem_splitSign
  obtain ⟨u, hu, -⟩ := Option.map_eq_some_iff.1 h
  exact isNumeral_of_unsigned? hu

/-! ### The shape of finite numerals -/

/-- Whether the digits that a decimal number begins with may end at a character. -/
def endsDigits (c : Char) : Bool :=
  ".eE".toList.contains c

theorem endsDigits_of_scaled? {d : Scaled} (h : scaled? s = some d) {c : Char} {t : List Char}
    (hc : afterDigits s = c :: t) : endsDigits c = true := by
  rw [scaled?, hc] at h
  simp only at h
  split at h
  · exact absurd h (by simp)
  · obtain ⟨e, he, -⟩ := Option.bind_eq_some_iff.1 h
    unfold splitFraction at he
    split at he
    · next hpoint =>
      rw [(List.cons.inj hpoint).1]
      decide
    · -- without a point, an exponent follows the digits
      rw [exponent?] at he
      split at he
      · next hmark =>
        simp only [Bool.or_eq_true, decide_eq_true_eq] at hmark
        rcases hmark with rfl | rfl <;> decide
      · exact absurd he (by simp)

theorem head_of_scaled? {d : Scaled} (h : scaled? s = some d) :
    ∃ c t, s = c :: t ∧ (c.isDigit = true ∨ c = '.') := by
  rw [scaled?] at h
  simp only at h
  split at h
  · exact absurd h (by simp)
  · next hsome =>
    cases s with
    | nil => exact absurd ⟨rfl, rfl⟩ hsome
    | cons c t =>
      refine ⟨c, t, rfl, ?_⟩
      by_cases hdigit : c.isDigit = true
      · exact .inl hdigit
      · by_cases hpoint : c = '.'
        · exact .inr hpoint
        · -- neither whole digits nor a fraction
          have hwhole : leadingDigits (c :: t) = [] := List.takeWhile_cons_of_neg hdigit
          have hrest : afterDigits (c :: t) = c :: t := List.dropWhile_cons_of_neg hdigit
          exact absurd ⟨hwhole, by simp [hrest, splitFraction, hpoint]⟩ hsome

/-- The words are not finite, with either sign. -/
theorem exists_eq_decimal_of_isFinite {u : Unsigned} {negative : Bool}
    (h : (if negative then -u.value else u.value).isFinite = true) : ∃ d, u = .decimal d := by
  have hwords : ∀ word ∈ [Unsigned.notNumber, Unsigned.infinite],
      (if negative then -word.value else word.value).isFinite = false := by
    cases negative <;> decide +kernel
  cases u with
  | decimal d => exact ⟨d, rfl⟩
  | notNumber => exact absurd (hwords .notNumber (by simp)) (by simp [h])
  | infinite => exact absurd (hwords .infinite (by simp)) (by simp [h])

theorem scaled?_of_unsigned? {d : Scaled} (h : unsigned? s = some (.decimal d)) :
    scaled? s = some d := by
  rw [unsigned?] at h
  split at h
  · exact absurd h (by simp)
  · split at h
    · exact absurd h (by simp)
    · obtain ⟨d', hd, heq⟩ := Option.map_eq_some_iff.1 h
      rw [hd, Unsigned.decimal.inj heq]

/-- What reads as a finite number is a decimal number, a sign apart. -/
theorem exists_scaled?_of_readFinite? {x : Float} (h : readFinite? s = some x) :
    ∃ d, scaled? (splitSign s).2 = some d := by
  obtain ⟨hread, hfinite⟩ := Option.filter_eq_some_iff.1 h
  obtain ⟨u, hu, rfl⟩ := Option.map_eq_some_iff.1 hread
  obtain ⟨d, rfl⟩ := exists_eq_decimal_of_isFinite hfinite
  exact ⟨d, scaled?_of_unsigned? hu⟩

end Tabula.Decimal

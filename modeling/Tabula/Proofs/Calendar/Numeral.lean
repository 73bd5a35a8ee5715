import Tabula.Cell.Basic
import Tabula.Proofs.Decimal.Numeral

/-!
# No numeral is a date

Numerals and date texts have characters in common: both have digits, and signs or minus signs, and
both are read leniently. They part where the first digits end. There a decimal number goes on with a
point or an exponent (`Decimal.endsDigits_of_scaled?`), and a date text with a separator or, behind
blanks perhaps, with the name of a month, unless it begins with such a name. So what reads as a
finite number names no moment (`recognize_eq_none_of_readFinite?`), and no cell is both a number and
a date (`Cell.number?_eq_none_or_moment?_eq_none`).
-/

namespace Tabula.Calendar

open Tabula.Text Tabula.Decimal

variable {s t : List Char} {c : Char}

/-! ### Where the digits of a date text end -/

theorem splitSign_of_isDigit (hc : c.isDigit = true) : splitSign (c :: t) = (false, c :: t) := by
  unfold splitSign
  split
  · next heq => exact absurd ((List.cons.inj heq).1 ▸ hc) (by decide)
  · next heq => exact absurd ((List.cons.inj heq).1 ▸ hc) (by decide)
  · rfl

/-- A text that begins with digits has no sign, and its digits end where no digit follows. -/
theorem afterDigits_append {digits : List Char} (hsome : digits ≠ [])
    (hdigits : ∀ d ∈ digits, d.isDigit = true) (hc : c.isDigit = false) :
    afterDigits (splitSign (digits ++ c :: t)).2 = c :: t := by
  obtain ⟨d, rest, rfl⟩ := List.exists_cons_of_ne_nil hsome
  rw [List.cons_append, splitSign_of_isDigit (hdigits d List.mem_cons_self), ← List.cons_append,
    afterDigits, List.dropWhile_append_of_pos hdigits, List.dropWhile_cons_of_neg (by simp [hc])]

/-- The leading digits of an initial part are digits of the text. -/
theorem leadingDigits_take_append (s : List Char) (width : Nat) :
    (∀ d ∈ leadingDigits (s.take width), d.isDigit = true) ∧
      leadingDigits (s.take width) ++ s.drop (leadingDigits (s.take width)).length = s := by
  have hinitial : leadingDigits (s.take width) <+: s :=
    (List.takeWhile_prefix _).trans (List.take_prefix _ _)
  exact ⟨List.all_eq_true.1 List.all_takeWhile, List.prefix_iff_eq_append.1 hinitial⟩

theorem afterDigits_of_number? {width v : Nat} (h : number? width s = some (v, c :: t))
    (hc : c.isDigit = false) : afterDigits (splitSign s).2 = c :: t := by
  obtain ⟨hdigits, heq⟩ := leadingDigits_take_append s width
  unfold number? at h
  extract_lets digits at h
  split at h
  · exact absurd h (by simp)
  · next hsome =>
    rw [← heq, (Prod.mk.inj (Option.some.inj h)).2]
    exact afterDigits_append hsome hdigits hc

theorem afterDigits_of_longNumber? {v : Nat} (h : longNumber? s = some (v, t)) :
    afterDigits s = t := by
  unfold longNumber? at h
  extract_lets digits at h
  split at h
  · exact absurd h (by simp)
  · exact (Prod.mk.inj (Option.some.inj h)).2

theorem afterDigits_of_digits? {width v : Nat} (hwidth : 0 < width)
    (h : Timestamp.digits? width s = some (v, c :: t)) (hc : c.isDigit = false) :
    afterDigits (splitSign s).2 = c :: t := by
  obtain ⟨hdigits, heq⟩ := leadingDigits_take_append s width
  unfold Timestamp.digits? at h
  extract_lets digits at h
  split at h
  · next hlength =>
    have hsome : digits ≠ [] := List.ne_nil_of_length_pos (Nat.lt_of_lt_of_eq hwidth hlength.symm)
    rw [← heq, hlength, (Prod.mk.inj (Option.some.inj h)).2]
    exact afterDigits_append hsome hdigits hc
  · exact absurd h (by simp)

/-! ### Characters of decimal numbers -/

/-- The characters that decimal numbers consist of. -/
def decimalChars : List Char :=
  "0123456789.eE+-".toList

theorem mem_decimalChars_of_isDigit (hc : c.isDigit = true) : c ∈ decimalChars := by
  have hdigits : ∀ n < '9'.toNat + 1, '0'.toNat ≤ n → Char.ofNat n ∈ decimalChars := by decide
  obtain ⟨hlow, hhigh⟩ := Char.isDigit_iff_toNat.1 hc
  rw [← Char.ofNat_toNat c]
  exact hdigits _ (Nat.lt_succ_of_le hhigh) hlow

theorem mem_decimalChars_of_endsDigits (hc : endsDigits c = true) : c ∈ decimalChars := by
  have hends : ".eE".toList.all (decimalChars.contains ·) = true := by decide
  exact List.contains_iff_mem.1 (List.all_eq_true.1 hends c (List.contains_iff_mem.1 hc))

theorem trimStart_of_mem_decimalChars (hc : c ∈ decimalChars) : trimStart (c :: t) = c :: t := by
  have hblank : decimalChars.all (isBlank · == false) = true := by decide
  refine trimStart_eq_self fun d u h => ?_
  rw [← (List.cons.inj h).1]
  exact eq_of_beq (List.all_eq_true.1 hblank c hc)

theorem monthNamed?_nil : monthNamed? [] = none := by decide

/-- No month has a name that begins like a decimal number. -/
theorem monthNamed?_of_mem_decimalChars (hc : c ∈ decimalChars) : monthNamed? (c :: t) = none := by
  have hnames : decimalChars.all
      (fun c => monthNames.all (·.toList.head? != some c.toLower)) = true := by decide
  rw [monthNamed?, Option.map_eq_none_iff, List.idxOf?_eq_none_iff]
  intro hmem
  have hhead := List.all_eq_true.1 (List.all_eq_true.1 hnames c hc) _ hmem
  exact bne_iff_ne.1 hhead (by rw [String.toList_ofList]; rfl)

/-! ### Patterns on a decimal number -/

section Decimals

variable {d : Scaled} (hs : scaled? (splitSign s).2 = some d) {n n' : Numbers} {field : Field}
  {pattern : Pattern}
include hs

theorem head_of_decimal : ∃ c t, s = c :: t ∧ c ∈ decimalChars := by
  obtain ⟨c, t, hct, hc⟩ := head_of_scaled? hs
  unfold splitSign at hct
  split at hct
  · exact ⟨_, _, rfl, by decide⟩
  · exact ⟨_, _, rfl, by decide⟩
  · refine ⟨c, t, hct, ?_⟩
    rcases hc with hc | rfl
    · exact mem_decimalChars_of_isDigit hc
    · decide

/-- Behind the number that a decimal number begins with there are more digits, or what its digits
end at. -/
theorem next_of_read? (h : field.read? n s = some (n', c :: t)) :
    c.isDigit = true ∨ endsDigits c = true := by
  by_cases hc : c.isDigit = true
  · exact .inl hc
  · refine .inr (endsDigits_of_scaled? hs (t := t) ?_)
    obtain ⟨c', t', rfl, hc'⟩ := head_of_decimal hs
    unfold Field.read? at h
    rw [trimStart_of_mem_decimalChars hc'] at h
    split at h
    · next heq =>
      obtain ⟨⟨v, rest⟩, hnumber, hrest⟩ := Option.map_eq_some_iff.1 h
      rw [heq, ← (Prod.mk.inj hrest).2]
      exact afterDigits_of_longNumber? hnumber
    · next heq =>
      obtain ⟨⟨v, rest⟩, hnumber, hrest⟩ := Option.map_eq_some_iff.1 h
      rw [heq, ← (Prod.mk.inj hrest).2]
      exact afterDigits_of_longNumber? hnumber
    · obtain ⟨⟨v, rest⟩, hnumber, hrest⟩ := Option.map_eq_some_iff.1 h
      rw [(Prod.mk.inj hrest).2] at hnumber
      exact afterDigits_of_number? hnumber (by simpa using hc)

/-- A separator does not follow. -/
theorem readFrom?_literal (hsep : c.isDigit = false) (hends : endsDigits c = false) :
    Pattern.readFrom? n s (.number field :: .literal c :: pattern) = none := by
  cases hread : field.read? n s with
  | none => simp [Pattern.readFrom?, Part.read?, hread]
  | some read =>
    obtain ⟨n', rest⟩ := read
    cases rest with
    | nil => simp [Pattern.readFrom?, Part.read?, hread]
    | cons c' t =>
      have hne : c ≠ c' := by
        rintro rfl
        simpa [hsep, hends] using next_of_read? hs hread
      simp [Pattern.readFrom?, Part.read?, hread, hne]

/-- The name of a month does not follow, blanks or not. -/
theorem readFrom?_blanks_monthName :
    Pattern.readFrom? n s (.number field :: .blanks :: .monthName :: pattern) = none := by
  cases hread : field.read? n s with
  | none => simp [Pattern.readFrom?, Part.read?, hread]
  | some read =>
    obtain ⟨n', rest⟩ := read
    cases rest with
    | nil => simp [Pattern.readFrom?, Part.read?, hread, trimStart, monthNamed?_nil]
    | cons c t =>
      have hc : c ∈ decimalChars :=
        (next_of_read? hs hread).elim mem_decimalChars_of_isDigit mem_decimalChars_of_endsDigits
      simp [Pattern.readFrom?, Part.read?, hread, trimStart_of_mem_decimalChars hc,
        monthNamed?_of_mem_decimalChars hc]

theorem readFrom?_monthName : Pattern.readFrom? n s (.monthName :: pattern) = none := by
  obtain ⟨c, t, rfl, hc⟩ := head_of_decimal hs
  simp [Pattern.readFrom?, Part.read?, monthNamed?_of_mem_decimalChars hc]

theorem read?_of_mem_patterns {p : Pattern} (hp : p ∈ momentPatterns ++ datePatterns) :
    p.read? s = none := by
  have hdash (pattern : Pattern) :
      Pattern.readFrom? {} s (.number .year :: .literal '-' :: pattern) = none :=
    readFrom?_literal hs (by decide) (by decide)
  have hslash (field : Field) (pattern : Pattern) :
      Pattern.readFrom? {} s (.number field :: .literal '/' :: pattern) = none :=
    readFrom?_literal hs (by decide) (by decide)
  -- every pattern but those with a name begins with a number and a sign that no decimal number has
  -- there
  suffices hfrom : Pattern.readFrom? {} s p = none by simp [Pattern.read?, hfrom]
  simp only [momentPatterns, datePatterns, List.mem_append, List.mem_cons, List.not_mem_nil,
    or_false] at hp
  rcases hp with (rfl | rfl | rfl | rfl | rfl) | (rfl | rfl | rfl | rfl | rfl)
  · exact hdash _
  · exact hdash _
  · exact hdash _
  · exact hdash _
  · exact hdash _
  · exact hdash _
  · exact hslash _ _
  · exact hslash _ _
  · exact readFrom?_blanks_monthName hs
  · exact readFrom?_monthName hs

theorem timestamp_eq_none : Timestamp.read? s = none := by
  rw [Timestamp.read?]
  cases hread : Timestamp.digits? 4 s with
  | none => rfl
  | some read =>
    obtain ⟨year, rest⟩ := read
    have hafter : Timestamp.after? '-' rest = none := by
      cases rest with
      | nil => rfl
      | cons c t =>
        rw [Timestamp.after?, if_neg]
        rintro rfl
        have hend := afterDigits_of_digits? (by decide) hread (by decide)
        exact absurd (endsDigits_of_scaled? hs hend) (by decide)
    simp [hafter]

end Decimals

/-- **No numeral is a date.** What reads as a finite number names no moment. -/
theorem recognize_eq_none_of_readFinite? {x : Float} (h : readFinite? s = some x) :
    recognize s = none := by
  obtain ⟨d, hs⟩ := exists_scaled?_of_readFinite? h
  rw [recognize, timestamp_eq_none hs]
  exact List.findSome?_eq_none_iff.2 fun p hp => read?_of_mem_patterns hs hp

end Tabula.Calendar

namespace Tabula.Cell

variable {c : Cell}

/-- A cell that reads as a number does not read as a date. -/
theorem moment?_of_number? {x : Float} (h : c.number? = some x) : c.moment? = none := by
  cases c with
  | text s => exact Calendar.recognize_eq_none_of_readFinite? h
  | number value => rfl
  | bool value => rfl
  | null => rfl

theorem number?_eq_none_or_moment?_eq_none (c : Cell) : c.number? = none ∨ c.moment? = none := by
  cases h : c.number? with
  | none => exact .inl rfl
  | some x => exact .inr (moment?_of_number? h)

end Tabula.Cell

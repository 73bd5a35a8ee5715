import Tabula.Json.Decoder
import Tabula.Json.Printer
import Tabula.Proofs.Decimal.Digits

/-!
# Strings and numbers of JSON are read back

A string is read back character by character: what an escape writes is what it names
(`escape_escaped`), whether it is a letter of its own, a code of four digits or the character
itself. A whole number is read back as long as a word of 64 bits holds it (`number_digitsOf`);
beyond that its digits would be dropped.
-/

namespace Tabula.Json

open Value Tabula.Decimal

variable {c : Char} {s t rest : List Char} {n : Nat}

/-! ### Strings -/

theorem hexValue?_digitChar : ∀ d < 16, hexValue? (Nat.digitChar d) = some d := by decide

theorem length_le_byteCount (s : List Char) : s.length ≤ byteCount s := by
  suffices ∀ n, n + s.length ≤ s.foldl (fun n c => n + c.utf8Size) n by
    simpa [byteCount] using this 0
  induction s with
  | nil => simp
  | cons c s ih =>
    intro n
    have hpos := c.utf8Size_pos
    have hrest := ih (n + c.utf8Size)
    rw [List.length_cons, List.foldl_cons]
    omega

/-- A code of two zeros and two digits. -/
theorem hexCode_digitChars {a b : Nat} (ha : a < 16) (hb : b < 16) :
    hexCode ('0' :: '0' :: Nat.digitChar a :: Nat.digitChar b :: t) = .ok (a * 16 + b) := by
  have hcount : ¬ byteCount ['0', '0', Nat.digitChar a, Nat.digitChar b] < 4 :=
    Nat.not_lt.2 (length_le_byteCount ['0', '0', Nat.digitChar a, Nat.digitChar b])
  have hzero : hexValue? '0' = some 0 := rfl
  simp [hexCode, hcount, hzero, hexValue?_digitChar a ha, hexValue?_digitChar b hb]

theorem codedChar_digitChars {a b : Nat} (ha : a < 2) (hb : b < 16) :
    codedChar ('0' :: '0' :: Nat.digitChar a :: Nat.digitChar b :: t) =
      .ok (Char.ofNat (a * 16 + b), 4) := by
  have hlow : a * 16 + b < highStart := by
    simp only [highStart]
    omega
  simp [codedChar, hexCode_digitChars (by omega : a < 16) hb, hlow, bind, Except.bind, pure,
    Except.pure]

theorem shortEscapes_of_controlLetters :
    controlLetters.all (fun e => e.2 != 'u' && shortEscapes.lookup e.2 == some e.1) = true := by
  decide

/-- What an escape writes is what it names. -/
theorem escape_escaped (hc : c = '"' ∨ c = '\\' ∨ c.toNat ≤ lastControl) :
    ∃ tail, escaped c = '\\' :: tail ∧ ∀ t, escape true (tail ++ t) = .ok (c, tail.length) := by
  unfold escaped
  split
  · next hquote =>
    refine ⟨[c], rfl, fun t => ?_⟩
    rcases hquote with rfl | rfl <;> rfl
  · next hquote =>
    have hcontrol : c.toNat ≤ 0x1F := by
      rcases hc with hc | hc | hc
      · exact absurd (.inl hc) hquote
      · exact absurd (.inr hc) hquote
      · exact hc
    rw [if_pos hcontrol]
    split
    · next letter hletter =>
      obtain ⟨before, after, hsplit, -⟩ := List.lookup_eq_some_iff.1 hletter
      have hmem : (c, letter) ∈ controlLetters := by simp [hsplit]
      obtain ⟨hcode, hshort⟩ : letter ≠ 'u' ∧ shortEscapes.lookup letter = some c := by
        simpa using List.all_eq_true.1 shortEscapes_of_controlLetters _ hmem
      -- the letters that are written are among those that are read
      refine ⟨[letter], rfl, fun t => ?_⟩
      rw [List.singleton_append, escape, hshort]
      · rfl
      · exact hcode
    · refine ⟨'u' :: '0' :: '0' :: [Nat.digitChar (c.toNat / 16), Nat.digitChar (c.toNat % 16)],
        rfl, fun t => ?_⟩
      have hcoded := codedChar_digitChars (t := t) (by omega : c.toNat / 16 < 2)
        (Nat.mod_lt c.toNat (by decide : 16 > 0))
      rw [Nat.div_add_mod', Char.ofNat_toNat] at hcoded
      simp [escape, hcoded, bind, Except.bind, pure, Except.pure]

theorem stringBody_escaped (c : Char) :
    stringBody true (escaped c ++ t) =
      (stringBody true t).map fun (text, after) => (c :: text, after) := by
  by_cases hc : c = '"' ∨ c = '\\' ∨ c.toNat ≤ lastControl
  · obtain ⟨tail, htail, hescape⟩ := escape_escaped hc
    rw [htail, List.cons_append, stringBody, if_neg (by decide), if_pos rfl, hescape t]
    simp only [List.drop_left]
    cases stringBody true t <;> rfl
  · simp only [not_or] at hc
    obtain ⟨hquote, hslash, hplain⟩ := hc
    have hself : escaped c = [c] := by
      unfold escaped
      rw [if_neg (by simp [hquote, hslash])]
      exact if_neg hplain
    rw [hself, List.singleton_append, stringBody, if_neg hquote, if_neg hslash, if_neg hplain]
    cases stringBody true t <;> rfl

/-- **Strings.** The body of a string is read back up to its closing quote. -/
theorem stringBody_flatMap_escaped (s rest : List Char) :
    stringBody true (s.flatMap escaped ++ '"' :: rest) = .ok (s, rest) := by
  induction s with
  | nil =>
    rw [List.flatMap_nil, List.nil_append, stringBody]
    rfl
  | cons c s ih =>
    rw [List.flatMap_cons, List.append_assoc, stringBody_escaped, ih]
    rfl

/-! ### Whole numbers -/

/-- Digits of a number below the bound all fit. -/
theorem foldl_whole {digits : List Char} (h : valueOf digits < wordBound) :
    digits.foldl Gathered.whole {} = { significand := valueOf digits } := by
  induction digits using List.reverseRecOn with
  | nil => rfl
  | append_singleton digits c ih =>
    rw [valueOf_concat] at h ⊢
    have hnext : valueOf digits * 10 + digitValue c = 10 * valueOf digits + digitValue c := by
      omega
    rw [List.foldl_append, ih (by omega), List.foldl_cons, List.foldl_nil, Gathered.whole, hnext]
    exact if_neg (by simp only [Bool.false_eq_true, false_or]; omega)

/-- A text behind a value: nothing, or what begins with a comma or a gap. -/
def Delimited (rest : List Char) : Prop :=
  ∀ c u, rest = c :: u → c = ',' ∨ isGap c = true

theorem Delimited.nonDigit (h : Delimited rest) : NonDigit rest := by
  intro c u hrest
  rcases h c u hrest with rfl | hgap
  · decide
  · simp only [isGap, Bool.or_eq_true, decide_eq_true_eq] at hgap
    rcases hgap with ((rfl | rfl) | rfl) | rfl <;> decide

/-- Behind a whole number there is neither a point nor an exponent. -/
theorem Delimited.real?_eq_none (h : Delimited rest) (n : Nat) :
    real? { significand := n } rest = none := by
  unfold real?
  split
  · next heq => exact absurd (h _ _ rfl) (by decide)
  · next heq => exact absurd (h _ _ rfl) (by decide)
  · next heq => exact absurd (h _ _ rfl) (by decide)
  · rfl

/-- **Whole numbers.** A whole number of at most 64 bits is read back. -/
theorem number_digitsOf (h : n < wordBound) (hrest : Delimited rest) :
    number (digitsOf n ++ rest) = .ok (.natural n, rest) := by
  have hdigits : ∀ c ∈ digitsOf n, c.isDigit = true := fun c hc => isDigit_of_mem_digitsOf hc
  have hvalue := valueOf_digitsOf n
  have hunsigned : unsignedNumber false (digitsOf n ++ rest) = .ok (.natural n, rest) := by
    have hreal := hrest.real?_eq_none n
    have hfold := foldl_whole (hvalue.symm ▸ h : valueOf (digitsOf n) < wordBound)
    rw [hvalue] at hfold
    rw [unsignedNumber, leadingDigits_append hdigits hrest.nonDigit,
      afterDigits_append_of_nonDigit hdigits hrest.nonDigit]
    split
    · next hnil => exact absurd hnil digitsOf_ne_nil
    · next hzero => exact absurd (eq_nil_of_digitsOf_eq_zero_cons hzero) (by simp)
    · simp only [hfold, hreal]
      rfl
  -- no digits begin with a sign
  unfold number
  split
  · next heq =>
    obtain ⟨d, ds, hcons⟩ := List.exists_cons_of_ne_nil (digitsOf_ne_nil (n := n))
    rw [hcons, List.cons_append] at heq
    have hdigit := hdigits d (hcons ▸ List.mem_cons_self)
    rw [(List.cons.inj heq).1] at hdigit
    exact absurd hdigit (by decide)
  · exact hunsigned

end Tabula.Json

import Mathlib.Data.List.Induction
import Tabula.Decimal.Plain
import Tabula.Decimal.Reader

/-!
# Digits are read back

`digitsOf` writes a whole number without zeros in front and `valueOf` reads it
(`valueOf_digitsOf`). In front of what begins with no digit, digits are what a reader takes
(`leadingDigits_append`, `afterDigits_append_of_nonDigit`).
-/

namespace Tabula.Decimal

variable {digits rest : List Char} {c : Char} {n : Nat}

theorem digitValue_digitChar (h : n < 10) : digitValue (Nat.digitChar n) = n :=
  Nat.toNat_digitChar_sub_48_of_lt_ten h

theorem valueOf_concat (digits : List Char) (c : Char) :
    valueOf (digits ++ [c]) = 10 * valueOf digits + digitValue c := by
  simp [valueOf]

theorem valueOf_digitsOf (n : Nat) : valueOf (digitsOf n) = n :=
  Nat.ofDigitChars_eq_foldl.symm.trans Nat.ofDigitChars_ten_toDigits

theorem isDigit_of_mem_digitsOf (h : c ∈ digitsOf n) : c.isDigit = true :=
  Nat.isDigit_of_mem_toDigits (by decide) (by decide) h

theorem digitsOf_ne_nil : digitsOf n ≠ [] :=
  Nat.toDigits_ne_nil

/-- Only zero is written with a zero in front. -/
theorem eq_nil_of_digitsOf_eq_zero_cons (h : digitsOf n = '0' :: rest) : rest = [] := by
  induction n using Nat.strongRecOn generalizing rest with
  | ind n ih =>
    rw [digitsOf, Nat.toDigits_eq_if (by decide)] at h
    split at h
    · exact (List.cons.inj h).2.symm
    · next hlarge =>
      -- the digits in front of the last one are those of a smaller number, which is not zero
      obtain ⟨c, front, hfront⟩ := List.exists_cons_of_ne_nil (digitsOf_ne_nil (n := n / 10))
      have hzero : digitsOf (n / 10) = '0' :: front := by
        rw [← digitsOf, hfront] at h
        rw [hfront, (List.cons.inj h).1]
      have hnil := ih (n / 10) (Nat.div_lt_self (by omega) (by decide)) hzero
      have hvalue := valueOf_digitsOf (n / 10)
      rw [hzero, hnil] at hvalue
      have hsmall : n / 10 = 0 := hvalue.symm
      omega

/-! ### Digits in front of a text -/

/-- A text that begins with no digit. -/
def NonDigit (rest : List Char) : Prop :=
  ∀ c u, rest = c :: u → c.isDigit = false

theorem NonDigit.nil : NonDigit [] :=
  fun _ _ h => nomatch h

theorem NonDigit.cons (hc : c.isDigit = false) : NonDigit (c :: rest) := by
  rintro d u h
  rwa [← (List.cons.inj h).1]

theorem NonDigit.take (h : NonDigit rest) (count : Nat) : NonDigit (rest.take count) := by
  cases rest with
  | nil => simpa using h
  | cons c u =>
    cases count with
    | zero => exact .nil
    | succ count => exact .cons (h c u rfl)

theorem NonDigit.leadingDigits_eq (h : NonDigit rest) : leadingDigits rest = [] := by
  cases rest with
  | nil => rfl
  | cons c u => exact List.takeWhile_cons_of_neg (by simp [h c u rfl])

theorem NonDigit.afterDigits_eq (h : NonDigit rest) : afterDigits rest = rest := by
  cases rest with
  | nil => rfl
  | cons c u => exact List.dropWhile_cons_of_neg (by simp [h c u rfl])

theorem leadingDigits_append (hdigits : ∀ c ∈ digits, c.isDigit = true) (hrest : NonDigit rest) :
    leadingDigits (digits ++ rest) = digits := by
  rw [leadingDigits, List.takeWhile_append_of_pos hdigits, ← leadingDigits, hrest.leadingDigits_eq,
    List.append_nil]

theorem afterDigits_append_of_nonDigit (hdigits : ∀ c ∈ digits, c.isDigit = true)
    (hrest : NonDigit rest) : afterDigits (digits ++ rest) = rest := by
  rw [afterDigits, List.dropWhile_append_of_pos hdigits, ← afterDigits, hrest.afterDigits_eq]

end Tabula.Decimal

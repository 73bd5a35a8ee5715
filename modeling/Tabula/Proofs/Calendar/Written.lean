import Mathlib.Algebra.Group.Nat.Defs
import Mathlib.Data.List.TakeWhile
import Tabula.Proofs.Calendar.Patterns
import Tabula.Proofs.Decimal.Digits

/-!
# Written dates are read back

Dates and times of the day are printed here with zeros in front: a date alone in its five documented
forms (`DateForm`), a time with the second that a clock shows, which is 60 in a leap second, and a
fraction of any number of places up to nine.

A date alone is read back in each form (`DateForm.recognize_text`), since its own pattern reads it
and no other pattern fits it: a year of four digits is no day of the month.
-/

namespace Tabula.Calendar

open Tabula.Text Tabula.Decimal Calendar.Part Calendar.Field

variable {field : Field} {p : Pattern} {n : Numbers} {s rest : List Char} {c : Char} {v width : Nat}

/-! ### Numbers with zeros in front -/

/-- The last digits of a whole number, zeros in front, to a width. -/
def padded : Nat → Nat → List Char
  | 0, _ => []
  | width + 1, n => padded width (n / 10) ++ [Nat.digitChar (n % 10)]

@[simp] theorem length_padded (width n : Nat) : (padded width n).length = width := by
  induction width generalizing n with
  | zero => rfl
  | succ width ih => simp [padded, ih]

theorem isDigit_of_mem_padded (h : c ∈ padded width v) : c.isDigit = true := by
  induction width generalizing v with
  | zero => cases h
  | succ width ih =>
    rcases List.mem_append.1 h with h | h
    · exact ih h
    · rw [List.mem_singleton.1 h, Nat.isDigit_digitChar]
      exact decide_eq_true (Nat.mod_lt _ (by decide))

theorem valueOf_padded (h : v < 10 ^ width) : valueOf (padded width v) = v := by
  induction width generalizing v with
  | zero =>
    rw [Nat.lt_one_iff.1 h]
    rfl
  | succ width ih =>
    have hfront : v / 10 < 10 ^ width := by
      rw [Nat.pow_succ] at h
      omega
    rw [padded, valueOf_concat, ih hfront, digitValue_digitChar (Nat.mod_lt _ (by decide))]
    omega

theorem padded_succ_ne_nil : padded (width + 1) v ≠ [] := by
  simp [padded]

/-- A number of a field with all its digits. -/
def Field.text (field : Field) (v : Nat) : List Char :=
  padded field.width v

theorem Field.isDigit_of_mem_text (h : c ∈ field.text v) : c.isDigit = true :=
  isDigit_of_mem_padded h

theorem Field.text_ne_nil : field.text v ≠ [] := by
  cases field <;> exact padded_succ_ne_nil

theorem Field.exists_text_eq_cons : ∃ d t, field.text v = d :: t ∧ d.isDigit = true := by
  obtain ⟨d, t, h⟩ := List.exists_cons_of_ne_nil (field.text_ne_nil (v := v))
  exact ⟨d, t, h, Field.isDigit_of_mem_text (h ▸ List.mem_cons_self)⟩

theorem Field.leadingDigits_text :
    leadingDigits ((field.text v ++ rest).take field.width) = field.text v := by
  have hlength : (field.text v).length = field.width := length_padded ..
  rw [← hlength, List.take_left, leadingDigits]
  exact List.takeWhile_eq_self_iff.2 fun c hc => Field.isDigit_of_mem_text hc

theorem Field.read?_text (h : v < 10 ^ field.width) :
    field.read? n (field.text v ++ rest) = some (n.set v field, rest) := by
  have hnumber : number? field.width (field.text v ++ rest) = some (v, rest) := by
    have hvalue : valueOf (field.text v) = v := valueOf_padded h
    rw [number?, Field.leadingDigits_text]
    simp [Field.text_ne_nil, hvalue]
  obtain ⟨d, t, htext, hd⟩ := field.exists_text_eq_cons (v := v)
  rw [htext, List.cons_append] at hnumber ⊢
  rw [Field.read?_of_isDigit hd, hnumber]
  rfl

theorem Timestamp.digits?_text (h : v < 10 ^ field.width) :
    Timestamp.digits? field.width (field.text v ++ rest) = some (v, rest) := by
  rw [Timestamp.digits?, Field.leadingDigits_text]
  simp [Field.text, valueOf_padded h]

theorem trimStart_text : trimStart (field.text v ++ rest) = field.text v ++ rest := by
  obtain ⟨d, t, htext, hd⟩ := field.exists_text_eq_cons (v := v)
  rw [htext, List.cons_append, trimStart_of_mem_decimalChars (mem_decimalChars_of_isDigit hd)]

/-! ### Patterns on written parts -/

theorem Pattern.readFrom?_text (h : v < 10 ^ field.width) :
    Pattern.readFrom? n (field.text v ++ rest) (number field :: p) =
      Pattern.readFrom? (n.set v field) rest p := by
  rw [Pattern.readFrom?, Part.read?, Field.read?_text h]
  rfl

@[simp] theorem Pattern.readFrom?_literal_cons :
    Pattern.readFrom? n (c :: s) (literal c :: p) = Pattern.readFrom? n s p := by
  simp [Pattern.readFrom?, Part.read?]

/-- A blank before what begins without one. -/
theorem Pattern.readFrom?_blank_cons (h : trimStart s = s) :
    Pattern.readFrom? n (' ' :: s) (blanks :: p) = Pattern.readFrom? n s p := by
  have htrim : trimStart (' ' :: s) = s := (List.dropWhile_cons_of_pos (by decide)).trans h
  rw [Pattern.readFrom?, Part.read?, htrim]
  rfl

/-- A number with nothing behind it. -/
theorem Pattern.readFrom?_last_text (h : v < 10 ^ field.width) :
    Pattern.readFrom? n (field.text v) [number field] = some (n.set v field) := by
  calc Pattern.readFrom? n (field.text v) [number field]
    _ = Pattern.readFrom? n (field.text v ++ []) [number field] := by rw [List.append_nil]
    _ = Pattern.readFrom? (n.set v field) [] [] := Pattern.readFrom?_text h
    _ = some (n.set v field) := rfl

/-! ### Dates -/

/-- The short names of the months. -/
def shortMonths : List String :=
  ["Jan", "Feb", "Mar", "Apr", "May", "Jun", "Jul", "Aug", "Sep", "Oct", "Nov", "Dec"]

/-- The short name of a month. -/
def monthText (month : Nat) : List Char :=
  (shortMonths.getD (month - 1) "").toList

/-- The documented forms of a date alone. -/
inductive DateForm where
  /-- Year, month and day, with dashes between. -/
  | dashes
  /-- Year, month and day, with slashes between. -/
  | slashes
  /-- Month, day and year, with slashes between. -/
  | monthFirst
  /-- Day, name of the month and year. -/
  | dayFirst
  /-- Name of the month, day and year, with a comma before the year. -/
  | nameFirst
deriving DecidableEq, Repr

/-- The pattern that reads a form. -/
def DateForm.pattern : DateForm → Pattern
  | .dashes => yearFirst '-'
  | .slashes => yearFirst '/'
  | .monthFirst => Calendar.monthFirst
  | .dayFirst => [number day, blanks, monthName, blanks, number year]
  | .nameFirst => [monthName, blanks, number day, literal ',', blanks, number year]

/-- A date in a form. -/
def DateForm.text (form : DateForm) (d : Date) : List Char :=
  let year := Field.year.text d.year.toNat
  let month := Field.month.text d.month
  let day := Field.day.text d.day
  match form with
  | .dashes => year ++ '-' :: (month ++ '-' :: day)
  | .slashes => year ++ '/' :: (month ++ '/' :: day)
  | .monthFirst => month ++ '/' :: (day ++ '/' :: year)
  | .dayFirst => day ++ ' ' :: (monthText d.month ++ ' ' :: year)
  | .nameFirst => monthText d.month ++ ' ' :: (day ++ ',' :: ' ' :: year)

theorem DateForm.pattern_mem (form : DateForm) : form.pattern ∈ datePatterns := by
  cases form <;> decide

theorem monthNamed?_monthText : ∀ month < 13, 1 ≤ month →
    (monthText month).length = 3 ∧ monthNamed? (monthText month) = some month := by
  decide

/-- A date with a year of four digits. -/
def Date.IsCommon (d : Date) : Prop :=
  0 ≤ d.year ∧ d.year ≤ 9999

/-- The numbers of a date. -/
def Date.numbers (d : Date) : Numbers :=
  { year := d.year, month := d.month, day := d.day }

theorem Date.month_lt (d : Date) : d.month < 10 ^ Field.month.width := by
  have hmonth := d.month_mem
  have hwidth : 10 ^ Field.month.width = 100 := rfl
  omega

theorem Date.day_lt (d : Date) : d.day < 10 ^ Field.day.width := by
  have hday := d.day_mem
  have hdays := daysIn_bounds d.year d.month
  have hwidth : 10 ^ Field.day.width = 100 := rfl
  omega

theorem trimStart_monthText (d : Date) :
    trimStart (monthText d.month ++ rest) = monthText d.month ++ rest := by
  have hall : ∀ month < 13, 1 ≤ month →
      ((monthText month).head?.any fun c => !isBlank c) = true := by decide
  have hhead := hall d.month (Nat.lt_succ_of_le d.month_mem.2) d.month_mem.1
  refine trimStart_eq_self fun c t h => ?_
  cases htext : monthText d.month with
  | nil => simp [htext] at hhead
  | cons e u =>
    rw [htext, List.cons_append] at h
    simpa [htext, (List.cons.inj h).1] using hhead

/-- The name of a month is read, whatever stands behind it. -/
@[simp] theorem Pattern.readFrom?_monthText (d : Date) :
    Pattern.readFrom? n (monthText d.month ++ rest) (monthName :: p) =
      Pattern.readFrom? { n with month := d.month } rest p := by
  obtain ⟨hlength, hname⟩ :=
    monthNamed?_monthText d.month (Nat.lt_succ_of_le d.month_mem.2) d.month_mem.1
  rw [Pattern.readFrom?, Part.read?, ← hlength, List.take_left, List.drop_left, hname]
  rfl

section Dates

variable {d : Date} (hd : d.IsCommon)
include hd

theorem Date.IsCommon.year_lt : d.year.toNat < 10 ^ Field.year.width := by
  obtain ⟨-, hle⟩ := hd
  have hwidth : 10 ^ Field.year.width = 10000 := rfl
  omega

theorem Date.IsCommon.cast_year : (d.year.toNat : Int) = d.year :=
  Int.toNat_of_nonneg hd.1

theorem Date.IsCommon.moment?_numbers : d.numbers.moment? = some ⟨d, .midnight⟩ := by
  obtain ⟨hlow, hhigh⟩ := hd
  have hdate : Date.ofNumbers? d.year d.month d.day = some d :=
    ofNumbers?_eq_some_iff.2 ⟨by simp only [yearRange]; omega, rfl, rfl, rfl⟩
  rw [Date.numbers, moment?_of_date, hdate]
  rfl

theorem Date.IsCommon.set_numbers :
    (((({} : Numbers).set d.year.toNat .year).set d.month .month).set d.day .day) = d.numbers := by
  simp [Numbers.set, Date.numbers, hd.cast_year]

/-- A date with dashes is read in front of anything. -/
theorem Pattern.readFrom?_dashes :
    Pattern.readFrom? {} (DateForm.dashes.text d ++ rest) (yearFirst '-' ++ p) =
      Pattern.readFrom? d.numbers rest p := by
  simp only [DateForm.text, yearFirst, List.append_assoc, List.cons_append, List.nil_append,
    Pattern.readFrom?_text hd.year_lt, Pattern.readFrom?_text d.month_lt,
    Pattern.readFrom?_text d.day_lt, Pattern.readFrom?_literal_cons, hd.set_numbers]

/-- Each form is read by its own pattern. -/
theorem DateForm.readFrom?_text (form : DateForm) :
    Pattern.readFrom? {} (form.text d) form.pattern = some d.numbers := by
  have hyear := hd.year_lt
  have hblank {field : Field} {v : Nat} : trimStart (field.text v) = field.text v := by
    have hself : trimStart (field.text v ++ []) = field.text v ++ [] := trimStart_text
    simpa using hself
  -- each number is written with its full width, so that it ends where the pattern's does
  cases form with
  | dashes =>
    simp [DateForm.text, DateForm.pattern, yearFirst, Pattern.readFrom?_text hyear,
      Pattern.readFrom?_text d.month_lt, Pattern.readFrom?_last_text d.day_lt, hd.set_numbers]
  | slashes =>
    simp [DateForm.text, DateForm.pattern, yearFirst, Pattern.readFrom?_text hyear,
      Pattern.readFrom?_text d.month_lt, Pattern.readFrom?_last_text d.day_lt, hd.set_numbers]
  | monthFirst =>
    simp [DateForm.text, DateForm.pattern, Calendar.monthFirst, Pattern.readFrom?_text d.month_lt,
      Pattern.readFrom?_text d.day_lt, Pattern.readFrom?_last_text hyear, Numbers.set, Date.numbers,
      hd.cast_year]
  | dayFirst =>
    simp [DateForm.text, DateForm.pattern, Pattern.readFrom?_text d.day_lt,
      Pattern.readFrom?_blank_cons (trimStart_monthText d), Pattern.readFrom?_blank_cons hblank,
      Pattern.readFrom?_last_text hyear, Numbers.set, Date.numbers, hd.cast_year]
  | nameFirst =>
    simp [DateForm.text, DateForm.pattern, Pattern.readFrom?_text d.day_lt,
      Pattern.readFrom?_blank_cons trimStart_text, Pattern.readFrom?_blank_cons hblank,
      Pattern.readFrom?_last_text hyear, Numbers.set, Date.numbers, hd.cast_year]

end Dates

/-- A number of two digits is short. -/
theorem Field.short_text (hwidth : field.width = 2) (h : v < 10 ^ field.width) :
    Short v (field.text v) := by
  have hshort : Short (valueOf (field.text v)) ([] ++ field.text v) :=
    .of (by simp) (fun c hc => Field.isDigit_of_mem_text hc) Field.text_ne_nil
      (by simp [Field.text, hwidth])
  have hvalue : valueOf (field.text v) = v := valueOf_padded h
  rwa [hvalue, List.nil_append] at hshort

/-- Digits that are a short number are two at most. -/
theorem Short.length_le (h : Short v s) (hdigits : ∀ c ∈ s, c.isDigit = true) : s.length ≤ 2 := by
  cases h with
  | @of blanks digits hblanks _ _ hlength =>
    cases blanks with
    | nil => exact hlength
    | cons c blanks =>
      have hdigit := mem_decimalChars_of_isDigit (hdigits c (by simp))
      have hself := trimStart_of_mem_decimalChars (t := []) hdigit
      simp [trimStart, hblanks c List.mem_cons_self] at hself

theorem Pattern.readFrom?_short (h : Short v s) (hrest : NonDigit rest) :
    Pattern.readFrom? n (s ++ rest) (number field :: p) =
      Pattern.readFrom? (n.set v field) rest p := by
  rw [Pattern.readFrom?, Part.read?, h.read? hrest]
  rfl

/-- A year of four digits is no day. -/
theorem Pattern.readFrom?_day_year :
    Pattern.readFrom? n (Field.year.text v) [number day] = none := by
  refine Option.eq_none_iff_forall_ne_some.2 fun n' h => ?_
  obtain ⟨n₁, rest, hday, hrest⟩ := Pattern.readFrom?_number_eq_some_iff.1 h
  obtain ⟨rfl, -⟩ := Pattern.readFrom?_nil_eq_some_iff.1 hrest
  obtain ⟨w, t, hshort, heq, -⟩ := Short.of_read? rfl hday
  rw [List.append_nil] at heq
  have hlength := (heq ▸ hshort).length_le fun c hc => Field.isDigit_of_mem_text hc
  simp [Field.text, Field.width] at hlength

/-- **Dates.** A date alone is read back in each of its forms. -/
theorem DateForm.recognize_text (form : DateForm) {d : Date} (hd : d.IsCommon) :
    recognize (form.text d) = some ⟨d, .midnight⟩ := by
  have hread : form.pattern.read? (form.text d) = some ⟨d, .midnight⟩ := by
    rw [Pattern.read?, form.readFrom?_text hd]
    exact hd.moment?_numbers
  refine recognize_of_read? form.pattern_mem hread fun hpattern => ?_
  cases form with
  | monthFirst =>
    have hslash (s : List Char) : NonDigit ('/' :: s) := .cons (by decide)
    simp [Pattern.read?, DateForm.text, yearFirst,
      Pattern.readFrom?_short (Field.short_text rfl d.month_lt) (hslash _),
      Pattern.readFrom?_short (Field.short_text rfl d.day_lt) (hslash _),
      Pattern.readFrom?_day_year]
  | _ => exact absurd hpattern (by decide)

/-! ### Times of the day -/

/-- A time that a clock shows: a leap second comes at the end of a minute. -/
def Time.IsCommon (t : Time) : Prop :=
  nanosPerSecond ≤ t.nanos → t.second = 59

/-- The second as a clock shows it, with 60 for a leap second. -/
def Time.shownSecond (t : Time) : Nat :=
  t.second + t.nanos / nanosPerSecond

/-- The nanoseconds past the second that a clock shows. -/
def Time.fraction (t : Time) : Nat :=
  t.nanos % nanosPerSecond

/-- Whether so many places after the point tell the fraction of the second. -/
def Time.Fits (t : Time) (places : Nat) : Prop :=
  places ≤ fractionDigits ∧ 10 ^ (fractionDigits - places) ∣ t.fraction

/-- Hour and minute, with more behind them. -/
def Time.minuteText (t : Time) (rest : List Char) : List Char :=
  Field.hour.text t.hour ++ ':' :: (Field.minute.text t.minute ++ rest)

/-- Hour, minute and second, with more behind them. -/
def Time.secondText (t : Time) (rest : List Char) : List Char :=
  t.minuteText (':' :: (Field.second.text t.shownSecond ++ rest))

/-- The fraction of the second to a number of places. -/
def Time.fractionText (t : Time) (places : Nat) : List Char :=
  if places = 0 then []
  else '.' :: padded places (t.fraction / 10 ^ (fractionDigits - places))

theorem Time.fraction_lt (t : Time) : t.fraction < 10 ^ fractionDigits :=
  Nat.mod_lt _ (by decide)

theorem Time.hour_lt (t : Time) : t.hour < 10 ^ Field.hour.width := by
  have hseconds := t.seconds_lt
  have hday : secondsPerDay = 86400 := rfl
  have hwidth : 10 ^ Field.hour.width = 100 := rfl
  simp only [Time.hour]
  omega

theorem Time.minute_lt (t : Time) : t.minute < 10 ^ Field.minute.width := by
  have hwidth : 10 ^ Field.minute.width = 100 := rfl
  simp only [Time.minute]
  omega

theorem Time.shownSecond_lt (t : Time) : t.shownSecond < 10 ^ Field.second.width := by
  have hnanos := t.nanos_lt
  have hwidth : 10 ^ Field.second.width = 100 := rfl
  simp only [Time.shownSecond, Time.second, nanosPerSecond] at *
  omega

/-- Either a time lies in a leap second or it is shown as it is. -/
theorem Time.isLeap_or (t : Time) :
    nanosPerSecond ≤ t.nanos ∧ t.shownSecond = t.second + 1 ∧
        nanosPerSecond + t.fraction = t.nanos ∨
      t.shownSecond = t.second ∧ t.fraction = t.nanos := by
  have hsplit := Nat.div_add_mod t.nanos nanosPerSecond
  have hlt : t.nanos / nanosPerSecond < 2 :=
    Nat.div_lt_of_lt_mul (Nat.mul_comm 2 _ ▸ t.nanos_lt)
  rw [Time.shownSecond, Time.fraction]
  rcases Nat.le_one_iff_eq_zero_or_eq_one.1 (Nat.le_of_lt_succ hlt) with hzero | hone
  · rw [hzero] at hsplit ⊢
    omega
  · rw [hone] at hsplit ⊢
    omega

/-- What a clock shows is the time. -/
theorem Time.IsCommon.ofNumbers?_shown {t : Time} (ht : t.IsCommon) :
    Time.ofNumbers? t.hour t.minute t.shownSecond t.fraction = some t := by
  have hseconds := t.seconds_lt
  have hday : secondsPerDay = 86400 := rfl
  have hhour : t.hour < 24 := by
    simp only [Time.hour]
    omega
  have hclock : t.hour * 3600 + t.minute * 60 + t.second = t.seconds := by
    simp only [Time.hour, Time.minute, Time.second]
    omega
  have hfraction : t.fraction < nanosPerSecond := Nat.mod_lt _ (by decide)
  have hminute : t.minute < 60 := Nat.mod_lt _ (by decide)
  have hsecond : t.second < 60 := Nat.mod_lt _ (by decide)
  -- a leap second is shown as the sixtieth, and only at the end of a minute
  rcases t.isLeap_or with ⟨hleap, hshown, hnanos⟩ | ⟨hshown, hnanos⟩
  · have h59 := ht hleap
    rw [Time.ofNumbers?, dif_pos ⟨hhour, hminute, by omega, hfraction⟩, dif_neg (by omega)]
    congr 2
    omega
  · rw [Time.ofNumbers?, dif_pos ⟨hhour, hminute, by omega, hfraction⟩, dif_pos (by omega)]
    congr 2
    omega

/-- The numbers of a moment as a clock shows them. -/
def Moment.numbers (m : Moment) : Numbers :=
  { m.date.numbers with
    hour := m.time.hour, minute := m.time.minute, second := m.time.shownSecond,
    nanos := m.time.fraction }

/-- A moment with a year of four digits, at a time that a clock shows. -/
structure Moment.IsCommon (m : Moment) : Prop where
  /-- The year has four digits. -/
  date : m.date.IsCommon
  /-- A clock shows the time. -/
  time : m.time.IsCommon

theorem Moment.IsCommon.moment?_numbers {m : Moment} (hm : m.IsCommon) :
    m.numbers.moment? = some m := by
  obtain ⟨hlow, hhigh⟩ := hm.date
  have hdate : Date.ofNumbers? m.date.year m.date.month m.date.day = some m.date :=
    ofNumbers?_eq_some_iff.2 ⟨by simp only [yearRange]; omega, rfl, rfl, rfl⟩
  simp only [Moment.numbers, Date.numbers, Numbers.moment?, hdate, hm.time.ofNumbers?_shown]
  rfl

/-- The places after the point are read as the fraction. -/
theorem Time.Fits.nanos?_padded {t : Time} {places : Nat} (ht : t.Fits (places + 1))
    (hrest : NonDigit rest) :
    nanos? (padded (places + 1) (t.fraction / 10 ^ (fractionDigits - (places + 1))) ++ rest) =
      some (t.fraction, rest) := by
  obtain ⟨hplaces, hfits⟩ := ht
  have hlt : t.fraction / 10 ^ (fractionDigits - (places + 1)) < 10 ^ (places + 1) := by
    rw [Nat.div_lt_iff_lt_mul (Nat.pow_pos (by decide)), ← Nat.pow_add,
      Nat.add_sub_cancel' hplaces]
    exact t.fraction_lt
  generalize hdigits : padded (places + 1) (t.fraction / 10 ^ (fractionDigits - (places + 1))) =
    digits
  have hlength : digits.length = places + 1 := hdigits ▸ length_padded ..
  have hall : ∀ c ∈ digits, c.isDigit = true := hdigits ▸ fun c hc => isDigit_of_mem_padded hc
  have hvalue : valueOf digits = t.fraction / 10 ^ (fractionDigits - (places + 1)) :=
    hdigits ▸ valueOf_padded hlt
  have hsome : digits ≠ [] := List.ne_nil_of_length_pos (by omega)
  rw [nanos?, leadingDigits_append hall hrest, afterDigits_append_of_nonDigit hall hrest,
    List.take_of_length_le (by omega)]
  simp [hsome, hvalue, hlength, Nat.div_mul_cancel hfits]

end Tabula.Calendar

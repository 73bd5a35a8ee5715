import Tabula.Cell.Order
import Tabula.Proofs.Calendar.Instant
import Tabula.Proofs.Calendar.Written

/-!
# Written moments are read back

A moment is written to the minute or to the second, with a fraction of any number of places up to
nine (`MomentForm`), or as a timestamp with its offset (`Stamp`).

The patterns that are tried before the one that writes a moment either fail on its text or read the
same moment: a fraction is no end of a text, a letter is no blank, and a minute no end of a time
with seconds. A timestamp is read as its local moment less its offset, counted in seconds across
the ends of days, months and years; so timestamps of one instant compare as equal.
-/

namespace Tabula.Calendar

open Tabula.Text Tabula.Decimal Calendar.Part Calendar.Field

variable {m : Moment} {n : Numbers} {p : Pattern} {s t rest : List Char} {c mark : Char}
  {places v : Nat}

/-! ### Texts without blanks around them -/

/-- A text that neither begins nor ends with a blank, and is not empty. -/
structure Bare (s : List Char) : Prop where
  /-- The first character is no blank. -/
  first : ∃ c t, s = c :: t ∧ isBlank c = false
  /-- The last character is no blank. -/
  last : ∃ t c, s = t ++ [c] ∧ isBlank c = false

theorem Bare.trim_eq (h : Bare s) : trim s = s := by
  obtain ⟨c, t, rfl, hfirst⟩ := h.first
  obtain ⟨u, d, hu, hlast⟩ := h.last
  refine trim_eq_self (fun e w hw => ?_) fun e w hw => ?_
  · rwa [← (List.cons.inj hw).1]
  · rw [hw] at hu
    have hend := (List.append_inj' hu rfl).2
    rwa [(List.cons.inj hend).1]

/-- Blanks between bare texts are not around them. -/
theorem Bare.around (hs : Bare s) (ht : Bare t) (between : List Char) :
    Bare (s ++ (between ++ t)) := by
  obtain ⟨c, u, rfl, hfirst⟩ := hs.first
  obtain ⟨w, d, rfl, hlast⟩ := ht.last
  exact ⟨⟨c, _, rfl, hfirst⟩, ⟨c :: u ++ (between ++ w), d, by simp, hlast⟩⟩

theorem Bare.append (hs : Bare s) (ht : Bare t) : Bare (s ++ t) :=
  hs.around ht []

theorem Bare.join (hs : Bare s) (ht : Bare t) (c : Char) : Bare (s ++ c :: t) :=
  hs.around ht [c]

theorem Bare.of_forall (hsome : s ≠ []) (h : ∀ c ∈ s, isBlank c = false) : Bare s := by
  obtain ⟨c, t, rfl⟩ := List.exists_cons_of_ne_nil hsome
  refine ⟨⟨c, t, rfl, h c List.mem_cons_self⟩, ?_⟩
  exact ⟨_, _, (List.dropLast_append_getLast hsome).symm, h _ (List.getLast_mem hsome)⟩

theorem isBlank_of_isDigit (h : c.isDigit = true) : isBlank c = false :=
  trimStart_head (trimStart_of_mem_decimalChars (t := []) (mem_decimalChars_of_isDigit h))

theorem Bare.text (field : Field) (v : Nat) : Bare (field.text v) :=
  .of_forall Field.text_ne_nil fun _ hc => isBlank_of_isDigit (Field.isDigit_of_mem_text hc)

theorem Bare.monthText (d : Date) : Bare (monthText d.month) := by
  have hall : ∀ month < 13, 1 ≤ month → Calendar.monthText month ≠ [] ∧
      (Calendar.monthText month).all (fun c => !isBlank c) = true := by
    decide
  obtain ⟨hsome, hbare⟩ := hall d.month (Nat.lt_succ_of_le d.month_mem.2) d.month_mem.1
  exact .of_forall hsome fun c hc => by simpa using List.all_eq_true.1 hbare c hc

theorem Bare.date (form : DateForm) (d : Date) : Bare (form.text d) := by
  have hfield (field : Field) (v : Nat) : Bare (field.text v) := Bare.text field v
  have hmonth := Bare.monthText d
  cases form with
  | dashes => exact (hfield ..).join ((hfield ..).join (hfield ..) '-') '-'
  | slashes => exact (hfield ..).join ((hfield ..).join (hfield ..) '/') '/'
  | monthFirst => exact (hfield ..).join ((hfield ..).join (hfield ..) '/') '/'
  | dayFirst => exact (hfield ..).join (hmonth.join (hfield ..) ' ') ' '
  | nameFirst => exact hmonth.join ((hfield ..).around (hfield ..) [',', ' ']) ' '

/-- A bare text is read without further trimming. -/
theorem Bare.moment?_eq (h : Bare s) : moment? (String.ofList s) = recognize s := by
  rw [moment?, trimmed, String.toList_ofList, h.trim_eq]

/-! ### Patterns on a time of the day -/

@[simp] theorem Timestamp.after?_cons : Timestamp.after? c (c :: s) = some s := by
  simp [Timestamp.after?]

/-- The numbers of a moment, the fraction of its second apart. -/
def Moment.wholeNumbers (m : Moment) : Numbers :=
  { m.date.numbers with
    hour := m.time.hour, minute := m.time.minute, second := m.time.shownSecond }

theorem Pattern.readFrom?_minuteText (t : Time) :
    Pattern.readFrom? n (t.minuteText rest) (hourMinute ++ p) =
      Pattern.readFrom? { n with hour := t.hour, minute := t.minute } rest p := by
  simp [Time.minuteText, hourMinute, Pattern.readFrom?_text t.hour_lt,
    Pattern.readFrom?_text t.minute_lt, Numbers.set]

theorem Pattern.readFrom?_secondText :
    Pattern.readFrom? m.date.numbers (m.time.secondText rest) (hourMinuteSecond ++ p) =
      Pattern.readFrom? m.wholeNumbers rest p := by
  simp [Time.secondText, hourMinuteSecond, Pattern.readFrom?_minuteText,
    Pattern.readFrom?_text m.time.shownSecond_lt, Numbers.set, Moment.wholeNumbers]

/-- A letter is neither a blank nor the begin of an hour. -/
theorem Pattern.readFrom?_blanks_letter :
    Pattern.readFrom? n ('T' :: s) (blanks :: hourMinute ++ p) = none := by
  have htrim : trimStart ('T' :: s) = 'T' :: s := List.dropWhile_cons_of_neg (by decide)
  have hnumber : number? 2 ('T' :: s) = none := rfl
  simp [hourMinute, Pattern.readFrom?, Part.read?, Field.read?, htrim, Field.width, hnumber]

theorem Pattern.readFrom?_blank_minuteText (t : Time) :
    Pattern.readFrom? n (' ' :: t.minuteText rest) (blanks :: hourMinute ++ p) =
      Pattern.readFrom? { n with hour := t.hour, minute := t.minute } rest p :=
  (Pattern.readFrom?_blank_cons trimStart_text).trans (Pattern.readFrom?_minuteText t)

theorem Pattern.readFrom?_blank_secondText :
    Pattern.readFrom? m.date.numbers (' ' :: m.time.secondText rest)
        (blanks :: hourMinuteSecond ++ p) =
      Pattern.readFrom? m.wholeNumbers rest p :=
  (Pattern.readFrom?_blank_cons trimStart_text).trans Pattern.readFrom?_secondText

theorem Time.Fits.fraction_eq_zero {t : Time} (h : t.Fits 0) : t.fraction = 0 :=
  Nat.eq_zero_of_dvd_of_lt h.2 t.fraction_lt

theorem Moment.numbers_eq_whole (h : m.time.Fits 0) : m.numbers = m.wholeNumbers := by
  rw [Moment.numbers, h.fraction_eq_zero]
  rfl

/-- A fraction is read to the end of the text. -/
theorem Pattern.readFrom?_fraction (h : m.time.Fits places) :
    Pattern.readFrom? m.wholeNumbers (m.time.fractionText places) [Part.fraction] =
      some m.numbers := by
  cases places with
  | zero =>
    rw [Moment.numbers_eq_whole h]
    rfl
  | succ places =>
    have hnanos := h.nanos?_padded .nil
    rw [List.append_nil] at hnanos
    simp [Time.fractionText, Pattern.readFrom?, Part.read?, hnanos, Moment.numbers,
      Moment.wholeNumbers]

/-- A time makes up the text where no fraction follows. -/
theorem Pattern.readFrom?_whole (h : m.time.Fits places) :
    Pattern.readFrom? m.wholeNumbers (m.time.fractionText places) [] = none ∨
      Pattern.readFrom? m.wholeNumbers (m.time.fractionText places) [] = some m.numbers := by
  cases places with
  | zero =>
    rw [Moment.numbers_eq_whole h]
    exact .inr rfl
  | succ places => exact .inl (by simp [Time.fractionText, Pattern.readFrom?])

/-! ### Moments -/

/-- The documented forms of a moment. -/
inductive MomentForm where
  /-- To the minute. -/
  | minutes
  /-- To the second and some places of its fraction, with a mark behind the date. -/
  | seconds (mark : Char) (places : Nat)
deriving DecidableEq, Repr

/-- Whether a form tells the whole of a time. -/
def MomentForm.Fits : MomentForm → Time → Prop
  | .minutes, t => t.second = 0 ∧ t.nanos = 0
  | .seconds mark places, t => mark ∈ [' ', 'T'] ∧ t.Fits places

/-- The date of a moment, a mark and a time. -/
def Moment.dateThen (m : Moment) (mark : Char) (time : List Char) : List Char :=
  DateForm.dashes.text m.date ++ mark :: time

/-- A moment in a form. -/
def MomentForm.text : MomentForm → Moment → List Char
  | .minutes, m => m.dateThen ' ' (m.time.minuteText [])
  | .seconds mark places, m => m.dateThen mark (m.time.secondText (m.time.fractionText places))

theorem Bare.fractionText {t : Time} (hs : Bare s) : Bare (s ++ t.fractionText places) := by
  cases places with
  | zero => simpa [Time.fractionText] using hs
  | succ places =>
    exact hs.join (.of_forall padded_succ_ne_nil
      fun c hc => isBlank_of_isDigit (isDigit_of_mem_padded hc)) '.'

theorem Bare.dateThen (hs : Bare s) : Bare (m.dateThen mark s) :=
  (Bare.date .dashes m.date).join hs mark

theorem Bare.secondText (t : Time) (places : Nat) : Bare (t.secondText (t.fractionText places)) :=
  (Bare.text ..).join ((Bare.text ..).join (Bare.text ..).fractionText ':') ':'

theorem Bare.moment (form : MomentForm) (m : Moment) : Bare (form.text m) := by
  cases form with
  | minutes =>
    have hminute := (Bare.text .hour m.time.hour).join (Bare.text .minute m.time.minute) ':'
    exact Bare.dateThen (by simpa [Time.minuteText] using hminute)
  | seconds mark places => exact Bare.dateThen (Bare.secondText m.time places)

/-- What is read behind a date with dashes. -/
theorem Pattern.read?_dateThen (hm : m.IsCommon) :
    Pattern.read? (yearFirst '-' ++ p) (m.dateThen mark s) =
      (Pattern.readFrom? m.date.numbers (mark :: s) p).bind Numbers.moment? := by
  rw [Pattern.read?, Moment.dateThen, Pattern.readFrom?_dashes hm.date]
  rfl

/-- A blank behind the date is no letter. -/
theorem Pattern.read?_letter_dateThen (hm : m.IsCommon) :
    Pattern.read? (yearFirst '-' ++ (literal 'T' :: p)) (m.dateThen ' ' s) = none := by
  rw [Pattern.read?_dateThen hm]
  rfl

theorem findSome?_eq_some_of_forall {α β : Type} {l : List α} {f : α → Option β} {b : β}
    (hall : ∀ x ∈ l, f x = none ∨ f x = some b) (hone : ∃ x ∈ l, f x = some b) :
    l.findSome? f = some b := by
  obtain ⟨x, hx, hsome⟩ := hone
  cases hfind : l.findSome? f with
  | none => simp [List.findSome?_eq_none_iff.1 hfind x hx] at hsome
  | some b' =>
    obtain ⟨y, hy, hread⟩ := List.exists_of_findSome?_eq_some hfind
    rcases hall y hy with hnone | hsame
    · simp [hnone] at hread
    · rw [← hread, hsame]

/-- A text is read as what one pattern reads, if no other reads it otherwise. -/
theorem recognize_of_momentPatterns (hstamp : Timestamp.read? s = none)
    (hall : ∀ p ∈ momentPatterns, p.read? s = none ∨ p.read? s = some m)
    (hone : ∃ p ∈ momentPatterns, p.read? s = some m) : recognize s = some m := by
  rw [recognize, hstamp, List.findSome?_append, findSome?_eq_some_of_forall hall hone]
  rfl

/-- What comes first in a chain is read, and the chain goes on. -/
theorem bind_eq_of_eq_some {α β : Type} {x : Option α} {f : α → Option β} {a : α} {y : Option β}
    (hx : x = some a) (hf : f a = y) : (x >>= f) = y := by
  rw [hx]
  exact hf

/-- The parts of a timestamp up to its minute. -/
theorem Timestamp.read?_minuteText (hm : m.IsCommon) (hmark : mark ∈ ['T', 't', ' ']) :
    Timestamp.read? (m.dateThen mark (m.time.minuteText rest)) = do
      let (seconds, s) ← Timestamp.digits? 2 (← Timestamp.after? ':' rest)
      let (nanos, s) ← Timestamp.fraction? s
      let offset ← Timestamp.offset? s
      let moment ← Numbers.moment? { m.numbers with second := seconds, nanos := nanos }
      return moment.minusSeconds offset := by
  have hyear (s : List Char) : Timestamp.digits? 4 (Field.year.text _ ++ s) = _ :=
    Timestamp.digits?_text hm.date.year_lt
  have hmonth (s : List Char) : Timestamp.digits? 2 (Field.month.text _ ++ s) = _ :=
    Timestamp.digits?_text m.date.month_lt
  have hday (s : List Char) : Timestamp.digits? 2 (Field.day.text _ ++ s) = _ :=
    Timestamp.digits?_text m.date.day_lt
  have hhour (s : List Char) : Timestamp.digits? 2 (Field.hour.text _ ++ s) = _ :=
    Timestamp.digits?_text m.time.hour_lt
  have hminute (s : List Char) : Timestamp.digits? 2 (Field.minute.text _ ++ s) = _ :=
    Timestamp.digits?_text m.time.minute_lt
  have hafter (s : List Char) : Timestamp.afterMark? (mark :: s) = some s := by
    simp only [List.mem_cons, List.not_mem_nil, or_false] at hmark
    rcases hmark with rfl | rfl | rfl <;> rfl
  simp only [Moment.dateThen, DateForm.text, Time.minuteText, List.append_assoc, List.cons_append]
  -- the parts are read one after the other, so the binds are opened one after the other too
  refine bind_eq_of_eq_some (hyear _) ?_
  refine bind_eq_of_eq_some Timestamp.after?_cons <| bind_eq_of_eq_some (hmonth _) ?_
  refine bind_eq_of_eq_some Timestamp.after?_cons <| bind_eq_of_eq_some (hday _) ?_
  refine bind_eq_of_eq_some (hafter _) <| bind_eq_of_eq_some (hhour _) ?_
  refine bind_eq_of_eq_some Timestamp.after?_cons <| bind_eq_of_eq_some (hminute _) ?_
  rw [hm.date.cast_year]
  rfl

/-- The parts of a timestamp up to its second. -/
theorem Timestamp.read?_secondText (hm : m.IsCommon) (hmark : mark ∈ ['T', 't', ' ']) :
    Timestamp.read? (m.dateThen mark (m.time.secondText rest)) = do
      let (nanos, s) ← Timestamp.fraction? rest
      let offset ← Timestamp.offset? s
      let moment ← Numbers.moment? { m.numbers with nanos := nanos }
      return moment.minusSeconds offset := by
  have hsecond : Timestamp.digits? 2 (Field.second.text m.time.shownSecond ++ rest) = _ :=
    Timestamp.digits?_text m.time.shownSecond_lt
  rw [Time.secondText, Timestamp.read?_minuteText hm hmark]
  simp only [Option.bind_eq_bind, Option.bind_some, Timestamp.after?_cons, hsecond]
  rfl

/-- The fraction of a timestamp ends where no more digits follow. -/
theorem Timestamp.fraction?_text (h : m.time.Fits places)
    (hrest : ∀ c u, rest = c :: u → c.isDigit = false ∧ c ≠ '.') :
    Timestamp.fraction? (m.time.fractionText places ++ rest) = some (m.time.fraction, rest) := by
  cases places with
  | zero =>
    rw [h.fraction_eq_zero]
    unfold Timestamp.fraction?
    split
    · next s heq => exact absurd rfl (hrest '.' s heq).2
    · rfl
  | succ places => exact h.nanos?_padded fun c u heq => (hrest c u heq).1

/-- A moment with nothing behind it is no timestamp. -/
theorem MomentForm.timestamp_eq_none (form : MomentForm) (hm : m.IsCommon)
    (hfits : form.Fits m.time) : Timestamp.read? (form.text m) = none := by
  cases form with
  | minutes =>
    rw [MomentForm.text, Timestamp.read?_minuteText hm (by simp)]
    rfl
  | seconds mark places =>
    obtain ⟨hmark, hfits⟩ := hfits
    have hfraction := Timestamp.fraction?_text hfits (fun c u (hnil : [] = c :: u) => nomatch hnil)
    rw [List.append_nil] at hfraction
    have hstamp : mark ∈ ['T', 't', ' '] := by
      simp only [List.mem_cons, List.not_mem_nil, or_false] at hmark ⊢
      exact hmark.symm.imp_right .inr
    rw [MomentForm.text, Timestamp.read?_secondText hm hstamp, hfraction]
    rfl

theorem MomentForm.recognize_minutes (hm : m.IsCommon) (hsecond : m.time.second = 0)
    (hnanos : m.time.nanos = 0) : recognize (MomentForm.minutes.text m) = some m := by
  have hnumbers : { m.date.numbers with hour := m.time.hour, minute := m.time.minute } =
      m.numbers := by
    simp [Moment.numbers, Time.shownSecond, Time.fraction, hsecond, hnanos, Date.numbers]
  have hblank (p : Pattern) : Pattern.read? (yearFirst '-' ++ (blanks :: hourMinute ++ p))
      (MomentForm.minutes.text m) = (Pattern.readFrom? m.numbers [] p).bind Numbers.moment? := by
    rw [MomentForm.text, Pattern.read?_dateThen hm, Pattern.readFrom?_blank_minuteText, hnumbers]
  have hread := (hblank []).trans hm.moment?_numbers
  refine recognize_of_momentPatterns (MomentForm.minutes.timestamp_eq_none hm ⟨hsecond, hnanos⟩) ?_
    ⟨_, by simp [momentPatterns], hread⟩
  -- the patterns to the second ask for more than the text has; the last one is its own
  simp only [momentPatterns, List.forall_mem_cons]
  refine ⟨.inl ?_, .inl ?_, .inl ?_, .inl ?_, .inr ?_, by simp⟩
  · exact hblank [literal ':', number .second]
  · exact Pattern.read?_letter_dateThen hm
  · exact hblank [literal ':', number .second, Part.fraction]
  · exact Pattern.read?_letter_dateThen hm
  · exact hread

section Seconds

variable (hm : m.IsCommon) (hfits : m.time.Fits places)
include hm hfits

theorem Pattern.moment?_fraction :
    (Pattern.readFrom? m.wholeNumbers (m.time.fractionText places) [Part.fraction]).bind
      Numbers.moment? = some m := by
  rw [Pattern.readFrom?_fraction hfits]
  exact hm.moment?_numbers

theorem Pattern.moment?_whole :
    (Pattern.readFrom? m.wholeNumbers (m.time.fractionText places) []).bind Numbers.moment? = none ∨
      (Pattern.readFrom? m.wholeNumbers (m.time.fractionText places) []).bind Numbers.moment? =
        some m := by
  rcases Pattern.readFrom?_whole hfits with hnone | hsome
  · exact .inl (by rw [hnone]; rfl)
  · exact .inr (by rw [hsome]; exact hm.moment?_numbers)

theorem MomentForm.recognize_blank :
    recognize ((MomentForm.seconds ' ' places).text m) = some m := by
  have hblank (p : Pattern) : Pattern.read? (yearFirst '-' ++ (blanks :: hourMinuteSecond ++ p))
      ((MomentForm.seconds ' ' places).text m) =
        (Pattern.readFrom? m.wholeNumbers (m.time.fractionText places) p).bind
          Numbers.moment? := by
    rw [MomentForm.text, Pattern.read?_dateThen hm, Pattern.readFrom?_blank_secondText]
  have hminute : Pattern.read? (yearFirst '-' ++ (blanks :: hourMinute ++ []))
      ((MomentForm.seconds ' ' places).text m) = none := by
    rw [MomentForm.text, Pattern.read?_dateThen hm, Time.secondText,
      Pattern.readFrom?_blank_minuteText]
    rfl
  have hread := (hblank [Part.fraction]).trans (Pattern.moment?_fraction hm hfits)
  refine recognize_of_momentPatterns (timestamp_eq_none _ hm ⟨by simp, hfits⟩) ?_
    ⟨_, by simp [momentPatterns], hread⟩
  -- without a fraction the first pattern reads the text as well, and the same
  simp only [momentPatterns, List.forall_mem_cons]
  refine ⟨?_, .inl ?_, .inr ?_, .inl ?_, .inl ?_, by simp⟩
  · exact (hblank []).symm ▸ Pattern.moment?_whole hm hfits
  · exact Pattern.read?_letter_dateThen hm
  · exact hread
  · exact Pattern.read?_letter_dateThen hm
  · exact hminute

theorem MomentForm.recognize_letter :
    recognize ((MomentForm.seconds 'T' places).text m) = some m := by
  have hletter (p : Pattern) :
      Pattern.read? (yearFirst '-' ++ (literal 'T' :: hourMinuteSecond ++ p))
        ((MomentForm.seconds 'T' places).text m) =
          (Pattern.readFrom? m.wholeNumbers (m.time.fractionText places) p).bind
            Numbers.moment? := by
    rw [MomentForm.text, Pattern.read?_dateThen hm, List.cons_append,
      Pattern.readFrom?_literal_cons, Pattern.readFrom?_secondText]
  have hblank (p : Pattern) : Pattern.read? (yearFirst '-' ++ (blanks :: hourMinute ++ p))
      ((MomentForm.seconds 'T' places).text m) = none := by
    rw [MomentForm.text, Pattern.read?_dateThen hm, Pattern.readFrom?_blanks_letter]
    rfl
  have hread := (hletter [Part.fraction]).trans (Pattern.moment?_fraction hm hfits)
  refine recognize_of_momentPatterns (timestamp_eq_none _ hm ⟨by simp, hfits⟩) ?_
    ⟨_, by simp [momentPatterns], hread⟩
  -- the patterns with a blank fail at the letter; of the others the first may read the text too
  simp only [momentPatterns, List.forall_mem_cons]
  refine ⟨.inl ?_, ?_, .inl ?_, .inr ?_, .inl ?_, by simp⟩
  · exact hblank _
  · exact (hletter []).symm ▸ Pattern.moment?_whole hm hfits
  · exact hblank _
  · exact hread
  · exact hblank []

end Seconds

/-- **Moments.** A moment is read back in each form that tells its time. -/
theorem MomentForm.recognize_text (form : MomentForm) (hm : m.IsCommon) (hfits : form.Fits m.time) :
    recognize (form.text m) = some m := by
  cases form with
  | minutes => exact MomentForm.recognize_minutes hm hfits.1 hfits.2
  | seconds mark places =>
    obtain ⟨hmark, hfits⟩ := hfits
    simp only [List.mem_cons, List.not_mem_nil, or_false] at hmark
    rcases hmark with rfl | rfl
    · exact MomentForm.recognize_blank hm hfits
    · exact MomentForm.recognize_letter hm hfits

/-! ### Timestamps -/

/-- A distance from universal time as it is written. -/
inductive Offset where
  /-- None, by the letter of universal time. -/
  | universal (letter : Char) (isLetter : letter = 'Z' ∨ letter = 'z')
  /-- Hours and minutes ahead of universal time or behind it. -/
  | clock (behind : Bool) (hours minutes : Nat) (hours_lt : hours < 24) (minutes_lt : minutes < 60)

/-- The seconds by which a local time lies ahead of universal time. -/
def Offset.seconds : Offset → Int
  | .universal .. => 0
  | .clock behind hours minutes .. =>
    let seconds : Int := hours * 3600 + minutes * 60
    if behind then -seconds else seconds

/-- An offset as a text. -/
def Offset.text : Offset → List Char
  | .universal letter _ => [letter]
  | .clock behind hours minutes .. =>
    (if behind then '-' else '+') ::
      (Field.hour.text hours ++ ':' :: Field.minute.text minutes)

theorem Offset.natAbs_seconds_lt (offset : Offset) : offset.seconds.natAbs < secondsPerDay := by
  cases offset with
  | universal => exact (by decide : 0 < secondsPerDay)
  | clock behind hours minutes hhours hminutes =>
    have hday : secondsPerDay = 86400 := rfl
    cases behind
    · simp only [Offset.seconds, Bool.false_eq_true, if_false]
      omega
    · simp only [Offset.seconds, if_true]
      omega

theorem Offset.offset?_text (offset : Offset) :
    Timestamp.offset? offset.text = some offset.seconds := by
  cases offset with
  | universal letter hletter => rcases hletter with rfl | rfl <;> rfl
  | clock behind hours minutes hhours hminutes =>
    have hhour_lt : hours < 10 ^ Field.hour.width := Nat.lt_trans hhours (by decide)
    have hminute_lt : minutes < 10 ^ Field.minute.width := Nat.lt_trans hminutes (by decide)
    have hhour (s : List Char) :
        Timestamp.digits? 2 (Field.hour.text hours ++ s) = some (hours, s) :=
      Timestamp.digits?_text hhour_lt
    have hminute : Timestamp.digits? 2 (Field.minute.text minutes ++ []) = some (minutes, []) :=
      Timestamp.digits?_text hminute_lt
    rw [List.append_nil] at hminute
    cases behind
    · simp [Offset.text, Offset.seconds, Timestamp.offset?, Timestamp.offsetSign?, hhour, hminute,
        hhours, hminutes]
    · simp [Offset.text, Offset.seconds, Timestamp.offset?, Timestamp.offsetSign?, hhour, hminute,
        hhours, hminutes]

/-- Behind a fraction an offset is neither a digit nor a second point. -/
theorem Offset.head_text (offset : Offset) :
    ∀ c u, offset.text = c :: u → c.isDigit = false ∧ c ≠ '.' := by
  rintro c u h
  cases offset with
  | universal letter hletter =>
    obtain ⟨rfl, -⟩ := List.cons.inj h
    rcases hletter with rfl | rfl <;> decide
  | clock behind hours minutes =>
    obtain ⟨rfl, -⟩ := List.cons.inj h
    cases behind <;> decide

theorem Bare.offset (offset : Offset) : Bare offset.text := by
  cases offset with
  | universal letter hletter =>
    refine .of_forall (by simp [Offset.text]) fun c hc => ?_
    rw [List.mem_singleton.1 hc]
    rcases hletter with rfl | rfl <;> decide
  | clock behind hours minutes =>
    have hsign : Bare [if behind then '-' else '+'] :=
      .of_forall (by simp) fun c hc => by
        rw [List.mem_singleton.1 hc]
        cases behind <;> decide
    exact hsign.append ((Bare.text .hour hours).join (Bare.text .minute minutes) ':')

/-- The form of a timestamp that tells the whole of a moment. -/
structure Stamp (m : Moment) where
  /-- What stands between date and time. -/
  mark : Char
  /-- The places of the fraction. -/
  places : Nat
  /-- The offset. -/
  offset : Offset
  /-- A letter or a space stands between date and time. -/
  mark_mem : mark ∈ ['T', 't', ' ']
  /-- The places tell the fraction. -/
  fits : m.time.Fits places

/-- A local moment as a timestamp. -/
def Stamp.text (stamp : Stamp m) : List Char :=
  m.dateThen stamp.mark (m.time.secondText (m.time.fractionText stamp.places ++ stamp.offset.text))

theorem Bare.stamp (stamp : Stamp m) : Bare stamp.text := by
  have hsecond : Bare (Field.second.text m.time.shownSecond ++
      (m.time.fractionText stamp.places ++ stamp.offset.text)) :=
    List.append_assoc .. ▸ (Bare.text ..).fractionText.append (Bare.offset stamp.offset)
  exact Bare.dateThen ((Bare.text ..).join ((Bare.text ..).join hsecond ':') ':')

/-- **Timestamps.** A timestamp is read as its local moment less its offset. -/
theorem Stamp.recognize_text (stamp : Stamp m) (hm : m.IsCommon) :
    recognize stamp.text = some (m.minusSeconds stamp.offset.seconds) := by
  have hread : Timestamp.read? stamp.text = some (m.minusSeconds stamp.offset.seconds) := by
    rw [Stamp.text, Timestamp.read?_secondText hm stamp.mark_mem,
      Timestamp.fraction?_text stamp.fits stamp.offset.head_text]
    have hmoment : Numbers.moment? { m.numbers with nanos := m.time.fraction } = some m :=
      hm.moment?_numbers
    simp only [Option.bind_eq_bind, Option.bind_some, stamp.offset.offset?_text, hmoment]
    rfl
  rw [recognize, hread]
  rfl

/-- A text that names a moment is compared by it. -/
theorem sortKey_of_recognize (hs : Bare s) (h : recognize s = some m) :
    SortKey.ofCell (.text (String.ofList s)) = .date m.rank := by
  have hmoment : (Cell.text (String.ofList s)).moment? = some m := hs.moment?_eq.trans h
  have hnumber : (Cell.text (String.ofList s)).number? = none :=
    (Cell.number?_eq_none_or_moment?_eq_none _).resolve_right (by simp [hmoment])
  rw [SortKey.ofCell, hnumber, hmoment]

/-- Timestamps compare as equal exactly if they name the same instant. -/
theorem Stamp.compare_eq_iff {m' : Moment} (stamp : Stamp m) (stamp' : Stamp m') (hm : m.IsCommon)
    (hm' : m'.IsCommon) :
    Cell.compare (.text (String.ofList stamp.text)) (.text (String.ofList stamp'.text)) = .eq ↔
      m.seconds - stamp.offset.seconds = m'.seconds - stamp'.offset.seconds ∧
        m.time.nanos = m'.time.nanos := by
  have hseconds := m.seconds_minusSeconds stamp.offset.natAbs_seconds_lt
  have hseconds' := m'.seconds_minusSeconds stamp'.offset.natAbs_seconds_lt
  rw [Cell.compare, sortKey_of_recognize (Bare.stamp stamp) (stamp.recognize_text hm),
    sortKey_of_recognize (Bare.stamp stamp') (stamp'.recognize_text hm'), ← hseconds, ← hseconds']
  constructor
  · intro heq
    have hsame := Moment.eq_of_rank_eq (Std.compare_eq_iff_eq.1 heq)
    exact ⟨congrArg Moment.seconds hsame, congrArg (·.time.nanos) hsame⟩
  · rintro ⟨hsame, hnanos⟩
    rw [Moment.eq_of_seconds_eq hsame hnanos]
    exact Std.ReflCmp.compare_self

/-- **Written dates are read back.** A date alone is read back in each of its forms as midnight, a
moment in each form that tells its time, and a timestamp as the instant at its offset before the
local moment; timestamps compare as equal exactly if they name the same instant. -/
theorem moment?_of_written (m : Moment) (hm : m.IsCommon) :
    (∀ form : DateForm, moment? (String.ofList (form.text m.date)) = some ⟨m.date, .midnight⟩) ∧
      (∀ form : MomentForm, form.Fits m.time → moment? (String.ofList (form.text m)) = some m) ∧
      (∀ stamp : Stamp m, ∃ instant, moment? (String.ofList stamp.text) = some instant ∧
        instant.seconds = m.seconds - stamp.offset.seconds ∧
        instant.time.nanos = m.time.nanos) ∧
      ∀ (m' : Moment) (stamp : Stamp m) (stamp' : Stamp m'), m'.IsCommon →
        (Cell.compare (.text (String.ofList stamp.text)) (.text (String.ofList stamp'.text)) = .eq ↔
          m.seconds - stamp.offset.seconds = m'.seconds - stamp'.offset.seconds ∧
            m.time.nanos = m'.time.nanos) := by
  refine ⟨fun form => ?_, fun form hfits => ?_, fun stamp => ?_, fun m' stamp stamp' hm' => ?_⟩
  · rw [(Bare.date form m.date).moment?_eq, form.recognize_text hm.date]
  · rw [(Bare.moment form m).moment?_eq, form.recognize_text hm hfits]
  · refine ⟨m.minusSeconds stamp.offset.seconds, ?_, ?_, m.nanos_minusSeconds _⟩
    · rw [(Bare.stamp stamp).moment?_eq, stamp.recognize_text hm]
    · exact m.seconds_minusSeconds stamp.offset.natAbs_seconds_lt
  · exact stamp.compare_eq_iff stamp' hm hm'

/-- The end of a year, half a second into its leap second. -/
def yearsEnd : Moment where
  date := ⟨2016, 12, 31, by decide, by decide⟩
  time := ⟨86399, 1500000000, by decide, by decide⟩

/-- The same instant where the clocks are two hours ahead. -/
def yearsEndAhead : Moment where
  date := ⟨2017, 1, 1, by decide, by decide⟩
  time := ⟨7199, 1500000000, by decide, by decide⟩

/-- The end of the year in universal time. -/
def yearsEndStamp : Stamp yearsEnd where
  mark := 'T'
  places := 1
  offset := .universal 'Z' (.inl rfl)
  mark_mem := by decide
  fits := ⟨by decide, by decide⟩

/-- The end of the year with an offset. -/
def yearsEndAheadStamp : Stamp yearsEndAhead where
  mark := ' '
  places := 3
  offset := .clock false 2 0 (by decide) (by decide)
  mark_mem := by decide
  fits := ⟨by decide, by decide⟩

theorem moment?_of_yearsEnd :
    yearsEnd.IsCommon ∧
      moment? "Dec 31, 2016" = some ⟨yearsEnd.date, .midnight⟩ ∧
      moment? "2016-12-31 23:59:60.5" = some yearsEnd ∧
      Cell.compare (.text "2016-12-31T23:59:60.5Z") (.text "2017-01-01 01:59:60.500+02:00") =
        .eq := by
  have hcommon : yearsEnd.IsCommon := ⟨⟨by decide, by decide⟩, fun _ => by decide⟩
  have hcommon' : yearsEndAhead.IsCommon := ⟨⟨by decide, by decide⟩, fun _ => by decide⟩
  obtain ⟨hdate, hmoment, -, hcompare⟩ := moment?_of_written yearsEnd hcommon
  refine ⟨hcommon, hdate .nameFirst, hmoment (.seconds ' ' 1) ⟨by decide, yearsEndStamp.fits⟩, ?_⟩
  exact (hcompare yearsEndAhead yearsEndStamp yearsEndAheadStamp hcommon').2 ⟨by decide, rfl⟩

end Tabula.Calendar

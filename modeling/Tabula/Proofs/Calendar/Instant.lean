import Mathlib.Algebra.BigOperators.Intervals
import Mathlib.Algebra.Order.BigOperators.Group.Finset
import Tabula.Calendar.Timestamp

/-!
# Days and seconds on one line

`Date.number` counts the days from the first of January of year zero, and `Moment.seconds` the
seconds from its midnight, so that shifts of the clock become sums. The day after has the next
number (`Date.number_next`), across the ends of months and years, and equal numbers mean the same
day (`Date.eq_of_number_eq`). What lies some seconds earlier is a difference
(`Moment.seconds_minusSeconds`).
-/

namespace Tabula.Calendar

/-! ### Days -/

/-- The number of days before a year, counted from year zero. -/
def daysBeforeYear (year : Int) : Int :=
  365 * year + (year + 3) / 4 - (year + 99) / 100 + (year + 399) / 400

/-- The number of days of a year before a month. -/
def daysBeforeMonth (year : Int) (month : Nat) : Nat :=
  ∑ m ∈ Finset.Ico 1 month, daysIn year m

/-- The number of a day, counted from the day before year zero. -/
def Date.number (d : Date) : Int :=
  daysBeforeYear d.year + daysBeforeMonth d.year d.month + d.day

/-- The number of days of a year. -/
def daysInYear (year : Int) : Nat :=
  if isLeap year then 366 else 365

theorem isLeap_iff {year : Int} :
    isLeap year = true ↔ year % 4 = 0 ∧ (year % 100 ≠ 0 ∨ year % 400 = 0) := by
  simp [isLeap]

theorem daysBeforeYear_succ (year : Int) :
    daysBeforeYear (year + 1) = daysBeforeYear year + daysInYear year := by
  simp only [daysBeforeYear, daysInYear, isLeap_iff]
  split
  · omega
  · omega

theorem daysBeforeYear_le {year year' : Int} (h : year ≤ year') :
    daysBeforeYear year ≤ daysBeforeYear year' := by
  simp only [daysBeforeYear]
  omega

theorem daysBeforeMonth_one (year : Int) : daysBeforeMonth year 1 = 0 := by
  simp [daysBeforeMonth]

theorem daysBeforeMonth_succ (year : Int) (month : Nat) (h : 1 ≤ month) :
    daysBeforeMonth year (month + 1) = daysBeforeMonth year month + daysIn year month :=
  Finset.sum_Ico_succ_top h _

theorem daysBeforeMonth_le (year : Int) {month month' : Nat} (h : month ≤ month') :
    daysBeforeMonth year month ≤ daysBeforeMonth year month' :=
  Finset.sum_le_sum_of_subset (Finset.Ico_subset_Ico_right h)

/-- The months of a year make up its days. -/
theorem daysBeforeMonth_thirteen (year : Int) : daysBeforeMonth year 13 = daysInYear year := by
  simp only [daysBeforeMonth, daysInYear]
  cases h : isLeap year <;> simp [Finset.sum_Ico_succ_top, daysIn, h]

/-- A day lies after the beginning of its month and not after the end. -/
theorem Date.number_bounds (d : Date) :
    daysBeforeYear d.year + daysBeforeMonth d.year d.month < d.number ∧
      d.number ≤ daysBeforeYear d.year + daysBeforeMonth d.year (d.month + 1) := by
  have hday := d.day_mem
  rw [daysBeforeMonth_succ _ _ d.month_mem.1, Date.number]
  omega

/-- A day of an earlier year, or of an earlier month of the same year, has a smaller number. -/
theorem Date.number_lt {d d' : Date}
    (h : d.year < d'.year ∨ d.year = d'.year ∧ d.month < d'.month) : d.number < d'.number := by
  obtain ⟨-, hd⟩ := d.number_bounds
  obtain ⟨hd', -⟩ := d'.number_bounds
  rcases h with hyear | ⟨hyear, hmonth⟩
  · have hmonths : daysBeforeMonth d.year (d.month + 1) ≤ daysBeforeMonth d.year 13 :=
      daysBeforeMonth_le d.year (Nat.succ_le_succ d.month_mem.2)
    rw [daysBeforeMonth_thirteen] at hmonths
    have hyears := daysBeforeYear_le (Int.add_one_le_of_lt hyear)
    rw [daysBeforeYear_succ] at hyears
    omega
  · have hmonths : daysBeforeMonth d'.year (d.month + 1) ≤ daysBeforeMonth d'.year d'.month :=
      daysBeforeMonth_le d'.year hmonth
    rw [hyear] at hd
    omega

theorem Date.eq_of_number_eq {d d' : Date} (h : d.number = d'.number) : d = d' := by
  have hlt : ¬ (d.year < d'.year ∨ d.year = d'.year ∧ d.month < d'.month) :=
    fun hlt => by have := Date.number_lt hlt; omega
  have hgt : ¬ (d'.year < d.year ∨ d'.year = d.year ∧ d'.month < d.month) :=
    fun hgt => by have := Date.number_lt hgt; omega
  obtain ⟨year, month, day, _, _⟩ := d
  obtain ⟨year', month', day', _, _⟩ := d'
  simp only at hlt hgt
  obtain ⟨rfl, rfl⟩ : year = year' ∧ month = month' := by omega
  simp only [Date.number] at h
  obtain rfl : day = day' := by omega
  rfl

theorem Date.number_next (d : Date) : d.next.number = d.number + 1 := by
  have hmonth := d.month_mem
  have hday := d.day_mem
  unfold Date.next
  split
  · simp only [Date.number]
    omega
  · -- the last day of a month
    have hlast : d.day = daysIn d.year d.month := by omega
    have hend := daysBeforeMonth_succ d.year d.month hmonth.1
    split
    · simp only [Date.number]
      omega
    · have htwelve : d.month = 12 := by omega
      rw [htwelve, daysBeforeMonth_thirteen] at hend
      simp only [Date.number, daysBeforeYear_succ, daysBeforeMonth_one, htwelve]
      rw [htwelve] at hlast
      omega

theorem Date.number_previous (d : Date) : d.previous.number = d.number - 1 := by
  have hmonth := d.month_mem
  have hday := d.day_mem
  unfold Date.previous
  split
  · simp only [Date.number]
    omega
  · -- the first day of a month
    split
    · have hend := daysBeforeMonth_succ d.year (d.month - 1) (by omega)
      rw [Nat.sub_add_cancel hmonth.1] at hend
      simp only [Date.number]
      omega
    · have hone : d.month = 1 := by omega
      have hyear := daysBeforeYear_succ (d.year - 1)
      have hend := daysBeforeMonth_succ (d.year - 1) 12 (by omega)
      rw [daysBeforeMonth_thirteen] at hend
      have hlast : daysIn (d.year - 1) 12 = 31 := rfl
      simp only [Date.number, hone, daysBeforeMonth_one]
      rw [Int.sub_add_cancel] at hyear
      omega

/-! ### Seconds -/

/-- The number of seconds of a moment, counted from the beginning of the day before year zero. -/
def Moment.seconds (m : Moment) : Int :=
  m.date.number * secondsPerDay + m.time.seconds

theorem Moment.eq_of_seconds_eq {m m' : Moment} (hseconds : m.seconds = m'.seconds)
    (hnanos : m.time.nanos = m'.time.nanos) : m = m' := by
  obtain ⟨date, seconds, nanos, hlt, _⟩ := m
  obtain ⟨date', seconds', nanos', hlt', _⟩ := m'
  simp only [Moment.seconds, secondsPerDay] at hseconds hnanos hlt hlt'
  obtain rfl := hnanos
  obtain ⟨hnumber, rfl⟩ : date.number = date'.number ∧ seconds = seconds' := by omega
  obtain rfl := Date.eq_of_number_eq hnumber
  rfl

/-- What lies less than a day earlier or later is a difference of seconds. -/
theorem Moment.seconds_minusSeconds (m : Moment) {seconds : Int}
    (h : seconds.natAbs < secondsPerDay) :
    (m.minusSeconds seconds).seconds = m.seconds - seconds := by
  have hlt := m.time.seconds_lt
  have hday : secondsPerDay = 86400 := rfl
  simp only [Moment.minusSeconds, Moment.seconds]
  split
  · rw [Date.number_previous, hday]
    omega
  · split
    · rw [Date.number_next, hday]
      omega
    · rw [hday]
      omega

@[simp] theorem Moment.nanos_minusSeconds (m : Moment) (seconds : Int) :
    (m.minusSeconds seconds).time.nanos = m.time.nanos := rfl

end Tabula.Calendar

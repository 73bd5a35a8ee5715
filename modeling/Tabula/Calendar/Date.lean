/-!
# Dates and moments

`Date` is a day of the calendar, with the fact that its month has that day. `Time` is a second of
the day with a count of nanoseconds; in a leap second that count runs past `10 ^ 9`. A `Moment` is
a date and a time.

Moments are ordered by their `rank`, which goes by year, month, day, second and nanosecond in this
order of weight. Equal ranks mean equal moments (`Moment.eq_of_rank_eq`).
-/

namespace Tabula.Calendar

/-- Whether a year has a leap day. -/
def isLeap (year : Int) : Bool :=
  year % 4 == 0 && (year % 100 != 0 || year % 400 == 0)

/-- The number of days of a month. -/
def daysIn (year : Int) (month : Nat) : Nat :=
  match month with
  | 2 => if isLeap year then 29 else 28
  | 4 | 6 | 9 | 11 => 30
  | _ => 31

theorem daysIn_bounds (year : Int) (month : Nat) :
    28 ≤ daysIn year month ∧ daysIn year month ≤ 31 := by
  unfold daysIn
  split <;> (try split) <;> decide

/-- A day of the calendar. -/
structure Date where
  /-- The year, negative before year zero. -/
  year : Int
  /-- The month, from 1 to 12. -/
  month : Nat
  /-- The day of the month, from 1. -/
  day : Nat
  /-- The month exists. -/
  month_mem : 1 ≤ month ∧ month ≤ 12
  /-- The month has that day. -/
  day_mem : 1 ≤ day ∧ day ≤ daysIn year month
deriving DecidableEq, Repr

/-- The years that a date may have. -/
def yearRange : Int × Int := (-262143, 262142)

/-- The date with these numbers, if the calendar has it. -/
def Date.ofNumbers? (year : Int) (month day : Nat) : Option Date :=
  if _h : yearRange.1 ≤ year ∧ year ≤ yearRange.2 then
    if hm : 1 ≤ month ∧ month ≤ 12 then
      if hd : 1 ≤ day ∧ day ≤ daysIn year month then some ⟨year, month, day, hm, hd⟩ else none
    else none
  else none

/-- The day after. -/
def Date.next (d : Date) : Date :=
  if h : d.day < daysIn d.year d.month then
    ⟨d.year, d.month, d.day + 1, d.month_mem, by omega⟩
  else if hm : d.month < 12 then
    ⟨d.year, d.month + 1, 1, by omega, by have := daysIn_bounds d.year (d.month + 1); omega⟩
  else ⟨d.year + 1, 1, 1, by omega, by have := daysIn_bounds (d.year + 1) 1; omega⟩

/-- The day before. -/
def Date.previous (d : Date) : Date :=
  if h : 1 < d.day then
    ⟨d.year, d.month, d.day - 1, d.month_mem, by have := d.day_mem; omega⟩
  else if hm : 1 < d.month then
    ⟨d.year, d.month - 1, daysIn d.year (d.month - 1), by have := d.month_mem; omega,
      by have := daysIn_bounds d.year (d.month - 1); omega⟩
  else ⟨d.year - 1, 12, 31, by omega, by simp [daysIn]⟩

/-- The number of seconds of a day, leap seconds apart. -/
def secondsPerDay : Nat := 86400

/-- The number of nanoseconds of a second. -/
def nanosPerSecond : Nat := 1000000000

/-- A time of the day. -/
structure Time where
  /-- The second of the day. -/
  seconds : Nat
  /-- The nanoseconds within the second, past `nanosPerSecond` in a leap second. -/
  nanos : Nat
  /-- The day has that second. -/
  seconds_lt : seconds < secondsPerDay
  /-- At most one leap second follows. -/
  nanos_lt : nanos < 2 * nanosPerSecond
deriving DecidableEq, Repr

/-- Midnight. -/
def Time.midnight : Time where
  seconds := 0
  nanos := 0
  seconds_lt := by decide
  nanos_lt := by decide

/-- The time with these numbers, if the day has it. Second 60 is the leap second after 59. -/
def Time.ofNumbers? (hour minute second nanos : Nat) : Option Time :=
  if h : hour < 24 ∧ minute < 60 ∧ second ≤ 60 ∧ nanos < nanosPerSecond then
    if hs : second < 60 then
      some ⟨hour * 3600 + minute * 60 + second, nanos, by simp only [secondsPerDay]; omega,
        by omega⟩
    else
      some ⟨hour * 3600 + minute * 60 + 59, nanosPerSecond + nanos,
        by simp only [secondsPerDay]; omega, by omega⟩
  else none

/-- The hour of a time. -/
def Time.hour (t : Time) : Nat := t.seconds / 3600

/-- The minute of a time. -/
def Time.minute (t : Time) : Nat := t.seconds / 60 % 60

/-- The second of a time. -/
def Time.second (t : Time) : Nat := t.seconds % 60

/-- A point in time. -/
structure Moment where
  /-- The day. -/
  date : Date
  /-- The time of that day. -/
  time : Time
deriving DecidableEq, Repr

/-- The moment that lies `seconds` earlier, for a distance of less than a day. -/
def Moment.minusSeconds (m : Moment) (seconds : Int) : Moment :=
  let shifted : Int := m.time.seconds - seconds
  let date :=
    if shifted < 0 then m.date.previous
    else if (secondsPerDay : Int) ≤ shifted then m.date.next
    else m.date
  ⟨date, (shifted % secondsPerDay).toNat, m.time.nanos,
    by simp only [secondsPerDay, shifted]; omega, m.time.nanos_lt⟩

/-! ### The order of moments -/

/-- A number that grows with the moment. -/
def Moment.rank (m : Moment) : Int :=
  (((m.date.year * 13 + m.date.month) * 32 + m.date.day) * secondsPerDay + m.time.seconds)
    * (2 * nanosPerSecond) + m.time.nanos

theorem Moment.eq_of_rank_eq {m n : Moment} (h : m.rank = n.rank) : m = n := by
  obtain ⟨⟨y, mo, d, hm, hd⟩, ⟨s, ns, hs, hn⟩⟩ := m
  obtain ⟨⟨y', mo', d', hm', hd'⟩, ⟨s', ns', hs', hn'⟩⟩ := n
  have hb := daysIn_bounds y mo
  have hb' := daysIn_bounds y' mo'
  simp only [rank, secondsPerDay, nanosPerSecond] at h hs hn hs' hn'
  obtain ⟨rfl, rfl, rfl, rfl, rfl⟩ : y = y' ∧ mo = mo' ∧ d = d' ∧ s = s' ∧ ns = ns' := by omega
  rfl

end Tabula.Calendar

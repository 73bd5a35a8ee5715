import Tabula.Calendar.Timestamp

/-!
# Texts that are dates

A text is a date when it is a timestamp with an offset, or fits one of the patterns with a time of
the day, or fits one of the patterns of a date alone, which then means midnight. The forms are tried
in this order and the first that fits decides.
-/

namespace Tabula.Calendar

open Calendar.Part Calendar.Field

/-- Year, month and day, with a separator between. -/
def yearFirst (separator : Char) : Pattern :=
  [number year, literal separator, number month, literal separator, number day]

/-- Hour and minute. -/
def hourMinute : Pattern :=
  [number hour, literal ':', number minute]

/-- Hour, minute and second. -/
def hourMinuteSecond : Pattern :=
  hourMinute ++ [literal ':', number second]

/-- The patterns with a time of the day, in the order in which they are tried. -/
def momentPatterns : List Pattern :=
  [yearFirst '-' ++ [blanks] ++ hourMinuteSecond,
   yearFirst '-' ++ [literal 'T'] ++ hourMinuteSecond,
   yearFirst '-' ++ [blanks] ++ hourMinuteSecond ++ [fraction],
   yearFirst '-' ++ [literal 'T'] ++ hourMinuteSecond ++ [fraction],
   yearFirst '-' ++ [blanks] ++ hourMinute]

/-- The patterns of a date alone, in the order in which they are tried. -/
def datePatterns : List Pattern :=
  [yearFirst '-',
   yearFirst '/',
   [number month, literal '/', number day, literal '/', number year],
   [number day, blanks, monthName, blanks, number year],
   [monthName, blanks, number day, literal ',', blanks, number year]]

/-- The moment that a text without blanks around it names. -/
def recognize (s : List Char) : Option Moment :=
  Timestamp.read? s <|> (momentPatterns ++ datePatterns).findSome? (·.read? s)

/-- The moment that a text names, blanks around it apart. -/
def moment? (s : String) : Option Moment :=
  recognize (Text.trimmed s)

end Tabula.Calendar

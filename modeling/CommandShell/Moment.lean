/-!
Dates of the Gregorian calendar with a time of day, and how they are written.

Days are counted from the first of January of the year 1 (`dayNumber`), which gives the day of the
week.
-/

namespace CommandShell

/-- A date and a time of day. -/
structure Moment where
  year : Nat
  month : Nat
  day : Nat
  hour : Nat := 0
  minute : Nat := 0
  second : Nat := 0
deriving DecidableEq, Repr

namespace Moment

def isLeap (year : Nat) : Bool := year % 4 == 0 && (year % 100 != 0 || year % 400 == 0)

/-- The days of the year before the month begins. -/
def daysBefore (leap : Bool) (month : Nat) : Nat :=
  [0, 31, 59, 90, 120, 151, 181, 212, 243, 273, 304, 334].getD (month - 1) 0
    + if leap && month > 2 then 1 else 0

/-- The days from the first of January of the year 1, which was a Monday. -/
def dayNumber (m : Moment) : Nat :=
  let y := m.year - 1
  365 * y + y / 4 - y / 100 + y / 400 + daysBefore (isLeap m.year) m.month + (m.day - 1)

/-- The days of a month. -/
def daysIn (leap : Bool) (month : Nat) : Nat :=
  if month = 2 then (if leap then 29 else 28)
  else if month = 4 || month = 6 || month = 9 || month = 11 then 30
  else 31

def weekdayNames : List String := ["Mon", "Tue", "Wed", "Thu", "Fri", "Sat", "Sun"]

def monthNames : List String :=
  ["Jan", "Feb", "Mar", "Apr", "May", "Jun", "Jul", "Aug", "Sep", "Oct", "Nov", "Dec"]

def weekday (m : Moment) : String := weekdayNames.getD (m.dayNumber % 7) ""

def monthName (m : Moment) : String := monthNames.getD (m.month - 1) ""

/-- A number in at least two digits. -/
def twoDigits (n : Nat) : String := if n < 10 then "0" ++ toString n else toString n

/-- Weekday, month, day and year. -/
def dateText (m : Moment) : String :=
  " ".intercalate [m.weekday, m.monthName, twoDigits m.day, toString m.year]

/-- Hours, minutes and seconds. -/
def timeText (m : Moment) : String :=
  ":".intercalate [twoDigits m.hour, twoDigits m.minute, twoDigits m.second]

end Moment

/-- A Monday, a leap day, and a Sunday. -/
example : (Moment.mk 2026 10 19 12 34 56).dateText = "Mon Oct 19 2026"
    ∧ (Moment.mk 2024 2 29 0 0 0).dateText = "Thu Feb 29 2024"
    ∧ (Moment.mk 2025 5 4 3 4 5).dateText = "Sun May 04 2025" := by
  decide +kernel

end CommandShell

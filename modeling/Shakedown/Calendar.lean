/-!
Dates and times of the Gregorian calendar, and their ISO 8601 text.

A year is written with at least four digits, with a minus sign before year 0 and a plus sign from
year 10000 on. A time may lie within a leap second, which is written as second 60.
-/

namespace Shakedown

namespace Calendar

def isLeapYear (year : Int) : Bool :=
  year % 4 = 0 && (year % 100 ≠ 0 || year % 400 = 0)

def daysInMonth (year : Int) (month : Nat) : Nat :=
  if month = 2 then (if isLeapYear year then 29 else 28)
  else if month = 4 ∨ month = 6 ∨ month = 9 ∨ month = 11 then 30
  else 31

/-- A natural number with zeros before it up to a width. -/
def padded (width n : Nat) : String :=
  String.ofList ((Nat.toDigits 10 n).leftpad width '0')

def yearText (year : Int) : String :=
  (if year < 0 then "-" else if 9999 < year then "+" else "") ++ padded 4 year.natAbs

end Calendar

structure Date where
  year : Int
  month : Nat
  day : Nat
  year_range : -262143 ≤ year ∧ year ≤ 262142
  month_range : 1 ≤ month ∧ month ≤ 12
  day_range : 1 ≤ day ∧ day ≤ Calendar.daysInMonth year month
deriving DecidableEq

namespace Date

def of? (year : Int) (month day : Nat) : Option Date :=
  if h : (-262143 ≤ year ∧ year ≤ 262142) ∧ (1 ≤ month ∧ month ≤ 12) ∧
      1 ≤ day ∧ day ≤ Calendar.daysInMonth year month then
    some ⟨year, month, day, h.1, h.2.1, h.2.2⟩
  else none

def text (d : Date) : String :=
  Calendar.yearText d.year ++ "-" ++ Calendar.padded 2 d.month ++ "-" ++ Calendar.padded 2 d.day

end Date

/-- A date with a time of day; nanoseconds from a thousand million on lie in a leap second, which may
follow any second. -/
structure DateTime where
  date : Date
  hour : Nat
  minute : Nat
  second : Nat
  nanosecond : Nat
  hour_range : hour < 24
  minute_range : minute < 60
  second_range : second < 60
  nanosecond_range : nanosecond < 2000000000
deriving DecidableEq

namespace DateTime

/-- The time with these fields. None is made in a leap second after any second but the last. -/
def of? (date : Date) (hour minute second nanosecond : Nat) : Option DateTime :=
  if h : hour < 24 ∧ minute < 60 ∧ second < 60 ∧ nanosecond < 2000000000 ∧
      (1000000000 ≤ nanosecond → second = 59) then
    some ⟨date, hour, minute, second, nanosecond, h.1, h.2.1, h.2.2.1, h.2.2.2.1⟩
  else none

/-- The second as it is shown. -/
def shownSecond (t : DateTime) : Nat := t.second + t.nanosecond / 1000000000

def text (t : DateTime) : String :=
  t.date.text ++ "T" ++ Calendar.padded 2 t.hour ++ ":" ++ Calendar.padded 2 t.minute ++ ":" ++
    Calendar.padded 2 t.shownSecond

end DateTime

example : (Date.of? 2024 2 29).map Date.text = some "2024-02-29" := by decide +kernel
example : (Date.of? (-5) 3 9).map Date.text = some "-0005-03-09" := by decide +kernel
example : Date.of? 1900 2 29 = none := by decide +kernel

end Shakedown

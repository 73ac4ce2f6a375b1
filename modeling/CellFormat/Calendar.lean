/-!
Dates of the Gregorian calendar, carried on before its introduction and with a year zero, and times of
day down to the nanosecond.
-/

namespace CellFormat

def isLeapYear (year : Int) : Bool := year % 4 = 0 && (year % 100 ≠ 0 || year % 400 = 0)

/-- The days of a month counted from one; none for a month that is none. -/
def daysInMonth (year : Int) : Nat → Nat
  | 2 => if isLeapYear year then 29 else 28
  | 1 | 3 | 5 | 7 | 8 | 10 | 12 => 31
  | 4 | 6 | 9 | 11 => 30
  | _ => 0

/-- The days of a year up to the end of a month. -/
def daysThrough (year : Int) : Nat → Nat
  | 0 => 0
  | month + 1 => daysThrough year month + daysInMonth year (month + 1)

def firstYear : Int := -262143

def lastYear : Int := 262142

structure Date where
  year : Int
  month : Nat
  day : Nat
  year_range : firstYear ≤ year ∧ year ≤ lastYear
  month_range : 1 ≤ month ∧ month ≤ 12
  day_range : 1 ≤ day ∧ day ≤ daysInMonth year month
  deriving DecidableEq, Repr

namespace Date

def ofFields? (year : Int) (month day : Nat) : Option Date :=
  if years : firstYear ≤ year ∧ year ≤ lastYear then
    if months : 1 ≤ month ∧ month ≤ 12 then
      if days : 1 ≤ day ∧ day ≤ daysInMonth year month then some ⟨year, month, day, years, months, days⟩
      else none
    else none
  else none

/-- The number of a day, the first day of year one being day one. -/
def dayNumber (date : Date) : Int :=
  let before := date.year - 1
  365 * before + before / 4 - before / 100 + before / 400 + daysThrough date.year (date.month - 1) +
    date.day

/-- The day of the week counted from Sunday; the first day of year one was a Monday. -/
def weekday (date : Date) : Fin 7 := ⟨(date.dayNumber % 7).toNat, by omega⟩

end Date

/-- A time of day. A leap second counts on as nanoseconds of second 59. -/
structure ClockTime where
  hour : Nat
  minute : Nat
  second : Nat
  nano : Nat
  hour_lt : hour < 24
  minute_lt : minute < 60
  second_lt : second < 60
  nano_lt : nano < if second = 59 then 2000000000 else 1000000000
  deriving DecidableEq, Repr

namespace ClockTime

def ofFields? (hour minute second nano : Nat) : Option ClockTime :=
  if hours : hour < 24 then
    if minutes : minute < 60 then
      if seconds : second < 60 then
        if nanos : nano < if second = 59 then 2000000000 else 1000000000 then
          some ⟨hour, minute, second, nano, hours, minutes, seconds, nanos⟩
        else none
      else none
    else none
  else none

def secondsFromMidnight (time : ClockTime) : Nat := time.hour * 3600 + time.minute * 60 + time.second

end ClockTime

end CellFormat

import CellFormat.Spelled

/-!
Settings of a date and time format, for the time of day or for a duration, and the steps by which they
are edited.
-/

namespace CellFormat

inductive DateTimeMode
  | clock | duration
  deriving DecidableEq, Repr

instance : Spelled DateTimeMode where
  values := [.clock, .duration]
  spelling
    | .clock => "clock"
    | .duration => "duration"
  mem_values := by intro mode; cases mode <;> decide
  spelling_inj := by intro a b; cases a <;> cases b <;> decide

inductive DateOrder
  | dayMonthYear | monthDayYear | yearMonthDay
  deriving DecidableEq, Repr

instance : Spelled DateOrder where
  values := [.dayMonthYear, .monthDayYear, .yearMonthDay]
  spelling
    | .dayMonthYear => "DMY"
    | .monthDayYear => "MDY"
    | .yearMonthDay => "YMD"
  mem_values := by intro order; cases order <;> decide
  spelling_inj := by intro a b; cases a <;> cases b <;> decide

inductive DateSeparator
  | slash | dash | dot | space | commaSpace | custom
  deriving DecidableEq, Repr

namespace DateSeparator

/-- The text of a separator that is not left to the settings. -/
def fixedText? : DateSeparator → Option String
  | slash => some "/"
  | dash => some "-"
  | dot => some "."
  | space => some " "
  | commaSpace => some ", "
  | custom => none

instance : Spelled DateSeparator where
  values := [slash, dash, dot, space, commaSpace, custom]
  spelling separator := separator.fixedText?.getD "custom"
  mem_values := by intro separator; cases separator <;> decide
  spelling_inj := by intro a b; cases a <;> cases b <;> decide

end DateSeparator

inductive DayFormat
  | number | padded | short | full
  deriving DecidableEq, Repr

instance : Spelled DayFormat where
  values := [.number, .padded, .short, .full]
  spelling
    | .number => "d"
    | .padded => "dd"
    | .short => "ddd"
    | .full => "dddd"
  mem_values := by intro format; cases format <;> decide
  spelling_inj := by intro a b; cases a <;> cases b <;> decide

inductive MonthFormat
  | number | padded | short | full | letter
  deriving DecidableEq, Repr

instance : Spelled MonthFormat where
  values := [.number, .padded, .short, .full, .letter]
  spelling
    | .number => "m"
    | .padded => "mm"
    | .short => "mmm"
    | .full => "mmmm"
    | .letter => "mmmmm"
  mem_values := by intro format; cases format <;> decide
  spelling_inj := by intro a b; cases a <;> cases b <;> decide

inductive YearFormat
  | twoDigits | fourDigits
  deriving DecidableEq, Repr

instance : Spelled YearFormat where
  values := [.twoDigits, .fourDigits]
  spelling
    | .twoDigits => "yy"
    | .fourDigits => "yyyy"
  mem_values := by intro format; cases format <;> decide
  spelling_inj := by intro a b; cases a <;> cases b <;> decide

inductive TimeUnit
  | hours | minutes | seconds
  deriving DecidableEq, Repr

namespace TimeUnit

instance : Spelled TimeUnit where
  values := [hours, minutes, seconds]
  spelling
    | hours => "hours"
    | minutes => "minutes"
    | seconds => "seconds"
  mem_values := by intro unit; cases unit <;> decide
  spelling_inj := by intro a b; cases a <;> cases b <;> decide

/-- The units from the longest to the shortest. -/
def all : List TimeUnit := [hours, minutes, seconds]

/-- The length of a unit in seconds. -/
def length : TimeUnit → Nat
  | hours => 3600
  | minutes => 60
  | seconds => 1

def isAbove (unit other : TimeUnit) : Bool := other.length < unit.length

end TimeUnit

/-- A ready-made duration format. -/
inductive SmartPreset
  | autoScale | compositeText | timer
  deriving DecidableEq, Repr

instance : Spelled (Option SmartPreset) where
  values := [none, some .autoScale, some .compositeText, some .timer]
  spelling
    | none => "none"
    | some .autoScale => "auto_scale"
    | some .compositeText => "composite_text"
    | some .timer => "timer"
  mem_values := by
    rintro (_ | preset)
    · decide
    · cases preset <;> decide
  spelling_inj := by
    rintro (_ | a) (_ | b)
    · decide
    · cases b <;> decide
    · cases a <;> decide
    · cases a <;> cases b <;> decide

/-- How a shown unit is written: as it is, with at least two digits, or with two decimals besides. -/
inductive UnitStyle
  | plain | padded | paddedCentis
  deriving DecidableEq, Repr

inductive HourFormat
  | hidden | plain | padded
  deriving DecidableEq, Repr

namespace HourFormat

instance : Spelled HourFormat where
  values := [hidden, plain, padded]
  spelling
    | hidden => "none"
    | plain => "h"
    | padded => "hh"
  mem_values := by intro format; cases format <;> decide
  spelling_inj := by intro a b; cases a <;> cases b <;> decide

def style? : HourFormat → Option UnitStyle
  | hidden => none
  | plain => some .plain
  | padded => some .padded

end HourFormat

inductive MinuteFormat
  | hidden | plain | padded
  deriving DecidableEq, Repr

namespace MinuteFormat

instance : Spelled MinuteFormat where
  values := [hidden, plain, padded]
  spelling
    | hidden => "none"
    | plain => "m"
    | padded => "mm"
  mem_values := by intro format; cases format <;> decide
  spelling_inj := by intro a b; cases a <;> cases b <;> decide

def style? : MinuteFormat → Option UnitStyle
  | hidden => none
  | plain => some .plain
  | padded => some .padded

end MinuteFormat

inductive SecondFormat
  | hidden | plain | padded | paddedCentis
  deriving DecidableEq, Repr

namespace SecondFormat

instance : Spelled SecondFormat where
  values := [hidden, plain, padded, paddedCentis]
  spelling
    | hidden => "none"
    | plain => "s"
    | padded => "ss"
    | paddedCentis => "ss.00"
  mem_values := by intro format; cases format <;> decide
  spelling_inj := by intro a b; cases a <;> cases b <;> decide

def style? : SecondFormat → Option UnitStyle
  | hidden => none
  | plain => some .plain
  | padded => some .padded
  | paddedCentis => some .paddedCentis

end SecondFormat

inductive AmPmStyle
  | upper | lower | shortUpper | shortLower
  deriving DecidableEq, Repr

namespace AmPmStyle

def code : AmPmStyle → String
  | upper => "AM/PM"
  | lower => "am/pm"
  | shortUpper => "A/P"
  | shortLower => "a/p"

instance : Spelled AmPmStyle where
  values := [upper, lower, shortUpper, shortLower]
  spelling := code
  mem_values := by intro style; cases style <;> decide
  spelling_inj := by intro a b; cases a <;> cases b <;> decide

end AmPmStyle

structure DateTimeSettings where
  mode : DateTimeMode := .clock
  useDate : Bool := true
  useTime : Bool := true
  /-- With or without brackets; blank for none. -/
  localeCode : String := ""
  dateOrder : DateOrder := .dayMonthYear
  dateSeparator : DateSeparator := .slash
  /-- Shown with the custom separator only. -/
  customDateSeparator : String := "-"
  dayFormat : DayFormat := .padded
  monthFormat : MonthFormat := .padded
  yearFormat : YearFormat := .fourDigits
  /-- The unit of a duration that counts on without end. -/
  leadingUnit : TimeUnit := .hours
  smart : Option SmartPreset := none
  hourFormat : HourFormat := .padded
  minuteFormat : MinuteFormat := .padded
  secondFormat : SecondFormat := .hidden
  hourSuffix : String := ":"
  minuteSuffix : String := ""
  secondSuffix : String := ""
  twelveHours : Bool := false
  amPm : AmPmStyle := .upper
  deriving DecidableEq, Repr

namespace DateTimeSettings

def isDuration (settings : DateTimeSettings) : Bool := settings.mode == .duration

/-- A date stands only beside a duration that is led by hours and not ready-made. -/
def isDateSuppressed (settings : DateTimeSettings) : Bool :=
  settings.isDuration && (settings.smart.isSome || settings.leadingUnit != .hours)

/-- A duration has no unit above the one that leads it. -/
def isUnitAllowed (settings : DateTimeSettings) (unit : TimeUnit) : Bool :=
  !settings.isDuration || !unit.isAbove settings.leadingUnit

def unitStyle? (settings : DateTimeSettings) : TimeUnit → Option UnitStyle
  | .hours => settings.hourFormat.style?
  | .minutes => settings.minuteFormat.style?
  | .seconds => settings.secondFormat.style?

def unitSuffix (settings : DateTimeSettings) : TimeUnit → String
  | .hours => settings.hourSuffix
  | .minutes => settings.minuteSuffix
  | .seconds => settings.secondSuffix

def dateSeparatorText (settings : DateTimeSettings) : String :=
  settings.dateSeparator.fixedText?.getD settings.customDateSeparator

/-- The settings in another mode, with the suffixes usual there. The clock has no ready-made format and
shows the date. -/
def withMode (settings : DateTimeSettings) : DateTimeMode → DateTimeSettings
  | .clock =>
    { settings with mode := .clock, smart := none, hourSuffix := ":", minuteSuffix := "", useDate := true }
  | .duration => { settings with mode := .duration, hourSuffix := "h ", minuteSuffix := "m " }

/-- The settings led by another unit. A duration then shows that unit and hides those above it, and no
date but under hours. -/
def withLeadingUnit (settings : DateTimeSettings) (unit : TimeUnit) : DateTimeSettings :=
  let settings := { settings with leadingUnit := unit }
  if settings.isDuration then
    match unit with
    | .hours =>
      { settings with
        hourFormat := if settings.hourFormat = .hidden then .padded else settings.hourFormat }
    | .minutes =>
      { settings with
        useDate := false
        hourFormat := .hidden
        minuteFormat := if settings.minuteFormat = .hidden then .padded else settings.minuteFormat }
    | .seconds =>
      { settings with
        useDate := false
        hourFormat := .hidden
        minuteFormat := .hidden
        secondFormat := if settings.secondFormat = .hidden then .padded else settings.secondFormat }
  else settings

/-- The settings with another preset, or none. A preset leaves no unit and no date to be shown by hand. -/
def withSmart (settings : DateTimeSettings) (preset : Option SmartPreset) : DateTimeSettings :=
  let settings := { settings with smart := preset }
  if preset.isSome then
    { settings with hourFormat := .hidden, minuteFormat := .hidden, secondFormat := .hidden, useDate := false }
  else settings

end DateTimeSettings

end CellFormat

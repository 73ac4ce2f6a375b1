import CellFormat.DateTime.Format
import CellFormat.DateTime.Plan

/-!
The format that a plan stands for.
-/

namespace CellFormat

namespace SmartPreset

/-- An hour as a fraction of a day, to the digits that the presets write. -/
def hourThreshold : Binary64 := .ofDecimal false ⟨416667, -7⟩

/-- The section of a preset for less than an hour. -/
def underHour (parts : List FormatPart) : FormatSection where
  condition := some ⟨.less, hourThreshold⟩
  color := some .blue
  parts := parts

def format : SmartPreset → DateTimeFormat
  | autoScale => ⟨[
      underHour [.elapsed .minutes, .separator " ", .literal "mins"],
      { parts := [.elapsed .hours, .separator " ", .literal "hours"] }]⟩
  | compositeText => ⟨[
      { parts := [
          .elapsed .hours, .literal "h ", .clock .minute2, .literal "m ", .clock .second2,
          .literal "s"] }]⟩
  | timer => ⟨[
      underHour [.clock .minute2, .separator ":", .clock .second2],
      { parts := [
          .elapsed .hours, .separator ":", .clock .minute2, .separator ":", .clock .second2] }]⟩

end SmartPreset

def DayFormat.part : DayFormat → CalendarPart
  | number => .day
  | padded => .day2
  | short => .dayShort
  | full => .dayFull

def MonthFormat.part : MonthFormat → CalendarPart
  | number => .month
  | padded => .month2
  | short => .monthShort
  | full => .monthFull
  | letter => .monthLetter

def YearFormat.part : YearFormat → CalendarPart
  | twoDigits => .year2
  | fourDigits => .year4

namespace DatePlan

def calendarParts (plan : DatePlan) : List CalendarPart :=
  match plan.order with
  | .dayMonthYear => [plan.day.part, plan.month.part, plan.year.part]
  | .monthDayYear => [plan.month.part, plan.day.part, plan.year.part]
  | .yearMonthDay => [plan.year.part, plan.month.part, plan.day.part]

/-- What stands between two parts of the date: of the separators only a space needs no quotes. -/
def separatorParts (plan : DatePlan) : List FormatPart :=
  if plan.separator = "" then []
  else if plan.separator = " " then [.separator " "]
  else [.literal plan.separator]

def parts (plan : DatePlan) : List FormatPart :=
  plan.separatorParts.intercalate (plan.calendarParts.map fun part => [.calendar part])

end DatePlan

namespace UnitPlan

/-- The parts of a unit's number. Only plain seconds can do without two digits where decimals follow. -/
def numberParts (plan : UnitPlan) : List FormatPart :=
  match plan.accumulating, plan.unit, plan.style with
  | true, .hours, _ => [.elapsed .hours]
  | true, .minutes, _ => [.elapsed .minutes]
  | true, .seconds, .paddedCentis => [.elapsed .seconds2, .subSecond 2]
  | true, .seconds, _ => [.elapsed .seconds]
  | false, .hours, .plain => [.clock .hour]
  | false, .hours, _ => [.clock .hour2]
  | false, .minutes, .plain => [.clock .minute]
  | false, .minutes, _ => [.clock .minute2]
  | false, .seconds, .plain => [.clock .second]
  | false, .seconds, .padded => [.clock .second2]
  | false, .seconds, .paddedCentis => [.clock .second2, .subSecond 2]

def suffixParts (plan : UnitPlan) : List FormatPart :=
  if plan.suffix.isEmpty then []
  else if isBareTimeText plan.suffix then [.separator plan.suffix]
  else [.literal plan.suffix]

def parts (plan : UnitPlan) : List FormatPart := plan.numberParts ++ plan.suffixParts

end UnitPlan

def TimePlan.parts (plan : TimePlan) : List FormatPart :=
  plan.units.flatMap UnitPlan.parts ++
    match plan.amPm with
    | some style => [.separator " ", .amPm style]
    | none => []

/-- The locale tag, the date and the time, the last two with a space between them. -/
def ManualPlan.parts (plan : ManualPlan) : List FormatPart :=
  (plan.locale.map FormatPart.locale).toList ++
    (match plan.date with | some date => date.parts | none => []) ++
    (if plan.date.isSome && plan.time.isSome then [.separator " "] else []) ++
    (match plan.time with | some time => time.parts | none => [])

def DateTimePlan.format : DateTimePlan → DateTimeFormat
  | smart preset => preset.format
  | manual plan => ⟨[{ parts := plan.parts }]⟩

namespace DateTimeSettings

def format (settings : DateTimeSettings) : DateTimeFormat := settings.plan.format

def code (settings : DateTimeSettings) : String := settings.format.code

end DateTimeSettings

end CellFormat

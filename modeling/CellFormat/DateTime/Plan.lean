import CellFormat.Code.Literal
import CellFormat.DateTime.Settings

/-!
The plan of a date and time format: what of the settings is shown, once their conflicts are settled.
-/

namespace CellFormat

structure DatePlan where
  order : DateOrder
  /-- Empty for none. -/
  separator : String
  day : DayFormat
  month : MonthFormat
  year : YearFormat
  deriving DecidableEq, Repr

structure UnitPlan where
  unit : TimeUnit
  style : UnitStyle
  /-- Whether the unit counts on past the next longer one. -/
  accumulating : Bool
  suffix : String
  deriving DecidableEq, Repr

structure TimePlan where
  units : List UnitPlan
  amPm : Option AmPmStyle
  deriving DecidableEq, Repr

structure ManualPlan where
  /-- The content of the locale tag. -/
  locale : Option String
  date : Option DatePlan
  time : Option TimePlan
  deriving DecidableEq, Repr

inductive DateTimePlan
  | smart (preset : SmartPreset)
  | manual (plan : ManualPlan)
  deriving DecidableEq, Repr

namespace DateTimeSettings

def datePlan? (settings : DateTimeSettings) : Option DatePlan :=
  if settings.useDate && !settings.isDateSuppressed then
    some {
      order := settings.dateOrder
      separator := settings.dateSeparatorText
      day := settings.dayFormat
      month := settings.monthFormat
      year := settings.yearFormat }
  else none

/-- A unit is shown if the mode allows it and its format does not hide it. -/
def unitPlan? (settings : DateTimeSettings) (unit : TimeUnit) : Option UnitPlan :=
  if settings.isUnitAllowed unit then
    (settings.unitStyle? unit).map fun style => {
      unit, style
      accumulating := settings.isDuration && unit == settings.leadingUnit
      suffix := settings.unitSuffix unit }
  else none

/-- The half of the day is told only beside a clock. -/
def amPm? (settings : DateTimeSettings) : Option AmPmStyle :=
  if !settings.isDuration && settings.twelveHours then some settings.amPm else none

def timePlan? (settings : DateTimeSettings) : Option TimePlan :=
  if settings.useTime then
    match TimeUnit.all.filterMap settings.unitPlan? with
    | [] => none
    | units => some ⟨units, settings.amPm?⟩
  else none

def manualPlan (settings : DateTimeSettings) : ManualPlan where
  locale := localeTag? settings.localeCode
  date := settings.datePlan?
  time := settings.timePlan?

/-- The plan of the settings: a preset leaves nothing else to be planned for a duration. -/
def plan (settings : DateTimeSettings) : DateTimePlan :=
  match settings.isDuration, settings.smart with
  | true, some preset => .smart preset
  | _, _ => .manual settings.manualPlan

end DateTimeSettings

end CellFormat

import CellFormat.DateTime.Settings
import CellFormat.Json.Basic

/-!
Date and time settings as JSON.
-/

namespace CellFormat

open Json

namespace DateTimeSettings

def fieldNames : List String :=
  ["mode", "useDate", "useTime", "localeCode", "dateOrder", "dateSeparator", "customDateSeparator",
    "dayFormat", "monthFormat", "yearFormat", "leadingDurationUnit", "smartDuration", "hourFormat",
    "minuteFormat", "secondFormat", "hourSuffix", "minuteSuffix", "secondSuffix", "use12Hour", "amPmFormat"]

def toJson (settings : DateTimeSettings) : Json :=
  .object [
    ("mode", ofSpelled settings.mode),
    ("useDate", .bool settings.useDate),
    ("useTime", .bool settings.useTime),
    ("localeCode", .string settings.localeCode),
    ("dateOrder", ofSpelled settings.dateOrder),
    ("dateSeparator", ofSpelled settings.dateSeparator),
    ("customDateSeparator", .string settings.customDateSeparator),
    ("dayFormat", ofSpelled settings.dayFormat),
    ("monthFormat", ofSpelled settings.monthFormat),
    ("yearFormat", ofSpelled settings.yearFormat),
    ("leadingDurationUnit", ofSpelled settings.leadingUnit),
    ("smartDuration", ofSpelled settings.smart),
    ("hourFormat", ofSpelled settings.hourFormat),
    ("minuteFormat", ofSpelled settings.minuteFormat),
    ("secondFormat", ofSpelled settings.secondFormat),
    ("hourSuffix", .string settings.hourSuffix),
    ("minuteSuffix", .string settings.minuteSuffix),
    ("secondSuffix", .string settings.secondSuffix),
    ("use12Hour", .bool settings.twelveHours),
    ("amPmFormat", ofSpelled settings.amPm)]

/-- Reads settings; what is left out has the value it has in the base. -/
def ofJson? (base : DateTimeSettings) (json : Json) : Option DateTimeSettings := do
  let fields ← record? fieldNames json
  return {
    mode := ← field? fields "mode" spelled? base.mode
    useDate := ← field? fields "useDate" bool? base.useDate
    useTime := ← field? fields "useTime" bool? base.useTime
    localeCode := ← field? fields "localeCode" string? base.localeCode
    dateOrder := ← field? fields "dateOrder" spelled? base.dateOrder
    dateSeparator := ← field? fields "dateSeparator" spelled? base.dateSeparator
    customDateSeparator := ← field? fields "customDateSeparator" string? base.customDateSeparator
    dayFormat := ← field? fields "dayFormat" spelled? base.dayFormat
    monthFormat := ← field? fields "monthFormat" spelled? base.monthFormat
    yearFormat := ← field? fields "yearFormat" spelled? base.yearFormat
    leadingUnit := ← field? fields "leadingDurationUnit" spelled? base.leadingUnit
    smart := ← field? fields "smartDuration" spelled? base.smart
    hourFormat := ← field? fields "hourFormat" spelled? base.hourFormat
    minuteFormat := ← field? fields "minuteFormat" spelled? base.minuteFormat
    secondFormat := ← field? fields "secondFormat" spelled? base.secondFormat
    hourSuffix := ← field? fields "hourSuffix" string? base.hourSuffix
    minuteSuffix := ← field? fields "minuteSuffix" string? base.minuteSuffix
    secondSuffix := ← field? fields "secondSuffix" string? base.secondSuffix
    twelveHours := ← field? fields "use12Hour" bool? base.twelveHours
    amPm := ← field? fields "amPmFormat" spelled? base.amPm }

end DateTimeSettings

end CellFormat

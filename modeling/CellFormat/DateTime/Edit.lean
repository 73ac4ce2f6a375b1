import CellFormat.DateTime.Settings

/-!
Date and time settings as they are edited: mode, leading unit and preset are chosen one after another, in any
order and as often as wanted.
-/

namespace CellFormat

/-- What can be chosen. -/
inductive DateTimeEdit
  | mode (mode : DateTimeMode)
  | leadingUnit (unit : TimeUnit)
  | smart (preset : Option SmartPreset)
  deriving DecidableEq, Repr

namespace DateTimeSettings

def edit (settings : DateTimeSettings) : DateTimeEdit → DateTimeSettings
  | .mode mode => settings.withMode mode
  | .leadingUnit unit => settings.withLeadingUnit unit
  | .smart preset => settings.withSmart preset

/-- The settings that edits lead to from the initial ones. -/
inductive Reached : DateTimeSettings → Prop
  | initial : Reached {}
  | edit {settings} (edit : DateTimeEdit) : Reached settings → Reached (settings.edit edit)

end DateTimeSettings

end CellFormat

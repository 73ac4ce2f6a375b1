import CellFormat.DateTime.Settings
import CellFormat.Number.Settings
import CellFormat.Rule.Basic

/-!
What is noted about settings whose code does not show all they ask for.
-/

namespace CellFormat

inductive Warning
  /-- Decimals or padding outside the range that is shown. -/
  | clamped (decimals padding : UInt8)
  /-- A date that the leading unit of a duration leaves no place for. -/
  | dateSuppressed (leadingUnit : TimeUnit)
  /-- More rules than a code has sections. -/
  | rulesDropped (given : Nat)
  /-- A rule without a condition before other rules. -/
  | elseNotLast (position : Nat)
  deriving DecidableEq, Repr

def TimeUnit.title : TimeUnit → String
  | hours => "Hours"
  | minutes => "Minutes"
  | seconds => "Seconds"

def Warning.message : Warning → String
  | clamped decimals padding =>
    s!"numeric settings out of range (decimals={decimals}, padding={padding}); clamping"
  | dateSuppressed leadingUnit => "date tokens suppressed: duration led by " ++ leadingUnit.title
  | rulesDropped given => s!"{given} conditional sections given, keeping the first {maxSections}"
  | elseNotLast position => s!"else rule at position {position} is not last; keeping given order"

def NumberSettings.warnings (settings : NumberSettings) : List Warning :=
  if settings.layout.isClamped then
    [.clamped settings.layout.decimals settings.layout.integerPadding]
  else []

/-- A preset leaves out the date without a word. -/
def DateTimeSettings.warnings (settings : DateTimeSettings) : List Warning :=
  if settings.useDate && settings.isDateSuppressed && settings.smart.isNone then
    [.dateSuppressed settings.leadingUnit]
  else []

def Rule.listWarnings (rules : List Rule) : List Warning :=
  let effective := (rules.filter isEffective).length
  let dropped := if maxSections < effective then [.rulesDropped effective] else []
  let misplaced := match (kept rules).findIdx? isElse with
    | some position => if position + 1 = (kept rules).length then [] else [.elseNotLast position]
    | none => []
  dropped ++ misplaced

end CellFormat

/-!
Why a settings value is refused, and how each reason reads.
-/

namespace CellFormat

inductive SettingsError
  | unknownColor (name : String)
  | unknownComparison (text : String)
  | invalidCondition (text reason : String)
  | tooManyRules (limit : Nat)
  | duplicateElse
  | ruleIndexOutOfRange (index length : Nat)
  deriving DecidableEq, Repr

def SettingsError.message : SettingsError → String
  | unknownColor name => s!"unknown color '{name}' (expected one of the 8 named colors)"
  | unknownComparison text => s!"unknown comparison operator '{text}'"
  | invalidCondition text reason => s!"invalid condition '{text}': {reason}"
  | tooManyRules limit => s!"too many rules (maximum {limit} sections allowed)"
  | duplicateElse => "an else rule is already present"
  | ruleIndexOutOfRange index length => s!"rule index {index} out of range (have {length})"

end CellFormat

import CellFormat.Color
import CellFormat.Condition

/-!
Rules that show a value in a section of its own when a condition holds of it, and the format code of a
list of rules.
-/

namespace CellFormat

/-- The most sections that conditions can choose from: two with conditions, and one for all the rest. -/
def maxSections : Nat := 3

/-- A rule without a condition holds of every value. -/
structure Rule where
  condition : Option Condition := none
  color : Option Color := none
  /-- A format code, taken as it is. -/
  format : String := ""
  deriving DecidableEq, Repr

namespace Rule

def isElse (rule : Rule) : Bool := rule.condition.isNone

/-- Whether the rule leaves a section in the code. -/
def isEffective (rule : Rule) : Bool := rule.condition.isSome || !rule.format.isEmpty

def holds (rule : Rule) (value : Binary64) : Bool := rule.condition.all (·.holds value)

/-- The rule that a new condition starts from. -/
def positive : Rule := { condition := some ⟨.greater, .zero⟩, format := "0.00" }

def code (rule : Rule) : String :=
  (match rule.condition with | some condition => condition.tag | none => "") ++ Color.tag rule.color ++
    rule.format

/-- The rules that make it into a code: those that leave a section, as many as there can be. -/
def kept (rules : List Rule) : List Rule := (rules.filter isEffective).take maxSections

def listCode (rules : List Rule) : String := ";".intercalate ((kept rules).map code)

end Rule

end CellFormat

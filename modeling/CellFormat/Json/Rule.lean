import CellFormat.Json.Basic
import CellFormat.Rule.List

/-!
Rules and lists of rules as JSON.
-/

namespace CellFormat

open Json

namespace Condition

def toJson (condition : Condition) : Json :=
  .object [("operator", ofSpelled condition.comparison), ("value", ofNumber condition.threshold)]

def ofJson? (json : Json) : Option Condition := do
  let fields ← record? ["operator", "value"] json
  return {
    comparison := ← required? fields "operator" spelled?
    threshold := ← required? fields "value" number? }

end Condition

namespace Rule

/-- A rule without a condition has no member for it. -/
def toJson (rule : Rule) : Json :=
  .object ((rule.condition.map fun condition => ("condition", condition.toJson)).toList ++
    [("color", ofNullable ofSpelled rule.color), ("format", .string rule.format)])

def ofJson? (json : Json) : Option Rule := do
  let fields ← record? ["condition", "color", "format"] json
  return {
    condition := ← field? fields "condition" (nullable? Condition.ofJson?) none
    color := ← field? fields "color" (nullable? spelled?) none
    format := ← field? fields "format" string? "" }

/-- The rules of an array, which need not make a list that a code can hold. -/
def listOfJson? : Json → Option (List Rule)
  | .array items => items.mapM ofJson?
  | _ => none

end Rule

namespace RuleList

def toJson (list : RuleList) : Json := .array (list.rules.map Rule.toJson)

/-- Reads a list; its form is judged before its limits. -/
def ofJson? (json : Json) : Option (Except SettingsError RuleList) :=
  (Rule.listOfJson? json).map ofRules

end RuleList

end CellFormat

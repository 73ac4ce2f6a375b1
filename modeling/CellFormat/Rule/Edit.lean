import CellFormat.Rule.List

/-!
Lists of rules edited in place. An edit that is refused leaves behind what it has done up to there.
-/

namespace CellFormat

/-- A step on the rules of a list. -/
abbrev RuleStep := EStateM SettingsError (List Rule)

namespace RuleStep

/-- Puts a rule at the end of the list, but before a rule without a condition that stands there. -/
def push (rule : Rule) : RuleStep Unit := do
  let rules ← get
  if maxSections ≤ rules.length then throw (.tooManyRules maxSections)
  else if rule.isElse then
    if rules.any Rule.isElse then throw .duplicateElse
    else set (rules ++ [rule])
  else if rules.getLast?.any Rule.isElse then set (rules.insertIdx (rules.length - 1) rule)
  else set (rules ++ [rule])

def pushPositive : RuleStep Unit := push .positive

def pushElse (color : Option Color) (format : String) : RuleStep Unit := push { color, format }

/-- Takes a rule out of the list. -/
def remove (index : Nat) : RuleStep Rule := do
  let rules ← get
  if within : index < rules.length then
    set (rules.eraseIdx index)
    return rules[index]
  else throw (.ruleIndexOutOfRange index rules.length)

end RuleStep

/-- What can be asked of a list. -/
inductive RuleEdit
  | push (rule : Rule)
  | pushPositive
  | pushElse (color : Option Color) (format : String)
  | remove (index : Nat)

namespace RuleEdit

def step : RuleEdit → RuleStep Unit
  | push rule => RuleStep.push rule
  | pushPositive => RuleStep.pushPositive
  | pushElse color format => RuleStep.pushElse color format
  | remove index => do discard (RuleStep.remove index)

/-- The rules that an edit leaves behind, done or refused. -/
def after (edit : RuleEdit) (rules : List Rule) : List Rule :=
  match edit.step.run rules with
  | .ok _ left | .error _ left => left

end RuleEdit

/-- The lists of rules that edits lead to, from the empty list, the initial one or one built of given rules. -/
inductive Rule.Reached : List Rule → Prop
  | empty : Reached RuleList.empty.rules
  | initial : Reached RuleList.initial.rules
  | ofRules {given list} : RuleList.ofRules given = .ok list → Reached list.rules
  | edit {rules} (edit : RuleEdit) : Reached rules → Reached (edit.after rules)

end CellFormat

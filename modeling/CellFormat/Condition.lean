import CellFormat.Binary64.Text
import CellFormat.SettingsError
import CellFormat.Spelled
import CellFormat.Text.Blank

/-!
Conditions that select a section by comparing the value with a threshold, and their text.
-/

namespace CellFormat

inductive Comparison
  | greater | greaterOrEqual | less | lessOrEqual | equal | notEqual
  deriving DecidableEq, Repr

namespace Comparison

def sign : Comparison → String
  | greater => ">"
  | greaterOrEqual => ">="
  | less => "<"
  | lessOrEqual => "<="
  | equal => "="
  | notEqual => "<>"

instance : Spelled Comparison where
  values := [greater, greaterOrEqual, less, lessOrEqual, equal, notEqual]
  spelling := sign
  mem_values := by intro comparison; cases comparison <;> decide
  spelling_inj := by intro a b; cases a <;> cases b <;> decide

def ofSign (text : String) : Except SettingsError Comparison :=
  match Spelled.ofSpelling? text with
  | some comparison => .ok comparison
  | none => .error (.unknownComparison text)

end Comparison

structure Condition where
  comparison : Comparison
  threshold : Binary64
  deriving DecidableEq, Repr

namespace Condition

/-- The distance from which on two numbers count as different: that from one to the next number. -/
def tolerance : Binary64 := .ofRank false (971 * placesPerDoubling)

/-- Whether the condition holds of a value. Equality allows for the tolerance. -/
def holds (condition : Condition) (value : Binary64) : Bool :=
  let threshold := condition.threshold
  match condition.comparison with
  | .greater => threshold.lt value
  | .greaterOrEqual => threshold.le value
  | .less => value.lt threshold
  | .lessOrEqual => value.le threshold
  | .equal => (value - threshold).abs.lt tolerance
  | .notEqual => tolerance.le (value - threshold).abs

def text (condition : Condition) : String := condition.comparison.sign ++ condition.threshold.text

def tag (condition : Condition) : String := "[" ++ condition.text ++ "]"

def isSignChar (c : Char) : Bool := c == '<' || c == '>' || c == '='

/-- Reads a comparison sign, taken as long as it goes, and a number, with white space around both. -/
def ofText (text : String) : Except SettingsError Condition :=
  let body := trimBlank text.toList
  let sign := body.takeWhile isSignChar
  if sign.isEmpty then .error (.invalidCondition text "missing comparison operator")
  else do
    let comparison ← Comparison.ofSign (String.ofList sign)
    let number := String.ofList (trimBlank (body.dropWhile isSignChar))
    match Binary64.ofText? number with
    | some threshold => .ok ⟨comparison, threshold⟩
    | none => .error (.invalidCondition text s!"'{number}' is not a number")

end Condition

end CellFormat

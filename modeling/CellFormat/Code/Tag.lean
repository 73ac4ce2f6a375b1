import CellFormat.Code.Literal
import CellFormat.Color
import CellFormat.Condition

/-!
What the content of a bracket means.
-/

namespace CellFormat

/-- The contents that count time without end or name a day, in lower case. -/
def timeUnitTags : List String := ["h", "hh", "m", "mm", "s", "ss", "d"]

inductive Tag
  | color (color : Color)
  | timeUnit (unit : String)
  | locale (code : String)
  | condition (condition : Condition)
  | unknown (content : String)
  deriving DecidableEq, Repr

namespace Tag

def isKnown : Tag → Bool
  | unknown _ => false
  | _ => true

/-- A condition, if the content is one with nothing before its sign. -/
def ofConditionText (content : String) : Tag :=
  match content.toList.head?.any Condition.isSignChar, Condition.ofText content with
  | true, .ok found => .condition found
  | _, _ => .unknown content

/-- Colors and time units are known in any case; a dollar sign opens a locale, whatever follows. -/
def ofContent (content : String) : Tag :=
  match Color.ofName content with
  | .ok found => .color found
  | .error _ =>
    let lower := lowercase content
    if lower ∈ timeUnitTags then .timeUnit lower
    else if content.toList.head? = some '$' then .locale content
    else ofConditionText content

end Tag

end CellFormat

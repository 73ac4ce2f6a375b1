import CellFormat.SettingsError
import CellFormat.Spelled
import CellFormat.Text.Case

/-!
The eight colors a section can be shown in.
-/

namespace CellFormat

inductive Color
  | black | blue | cyan | green | magenta | red | white | yellow
  deriving DecidableEq, Repr

namespace Color

def name : Color → String
  | black => "Black"
  | blue => "Blue"
  | cyan => "Cyan"
  | green => "Green"
  | magenta => "Magenta"
  | red => "Red"
  | white => "White"
  | yellow => "Yellow"

instance : Spelled Color where
  values := [black, blue, cyan, green, magenta, red, white, yellow]
  spelling := name
  mem_values := by intro color; cases color <;> decide
  spelling_inj := by intro a b; cases a <;> cases b <;> decide

/-- The color of a name in any mixture of upper and lower case. -/
def ofName (text : String) : Except SettingsError Color :=
  match Spelled.values.find? fun color : Color => lowercase color.name == lowercase text with
  | some color => .ok color
  | none => .error (.unknownColor text)

/-- The tag that colors a section; no color needs no tag. -/
def tag : Option Color → String
  | some color => "[" ++ color.name ++ "]"
  | none => ""

end Color

end CellFormat

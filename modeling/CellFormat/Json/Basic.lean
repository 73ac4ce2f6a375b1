import CellFormat.Binary64.Basic
import CellFormat.Color
import CellFormat.Spelled

/-!
JSON values, and the rules by which settings are read from them: a record is an object, or an array of
its fields in order, in which the last may be left out; a field left out keeps its base value, a member that
is no field is passed over, and no field may be given twice.
-/

namespace CellFormat

inductive Json
  | null
  | bool (value : Bool)
  /-- A number written without a point and without an exponent. -/
  | integer (value : Int)
  | real (value : Binary64)
  | string (text : String)
  | array (items : List Json)
  | object (members : List (String × Json))
  deriving Inhabited

namespace Json

def bool? : Json → Option Bool
  | bool value => some value
  | _ => none

def string? : Json → Option String
  | string text => some text
  | _ => none

/-- A whole number from 0 to 255. -/
def byte? : Json → Option UInt8
  | integer value => if 0 ≤ value ∧ value < 256 then some (UInt8.ofNat value.toNat) else none
  | _ => none

def ofByte (value : UInt8) : Json := integer value.toNat

def number? : Json → Option Binary64
  | integer value => some (.ofRat value)
  | real value => some value
  | _ => none

/-- A number; there is none for what is not finite. -/
def ofNumber (value : Binary64) : Json := if value.isFinite then real value else null

/-- A value by its spelling, or as the only member of an object that holds nothing else. -/
def spelled? {α : Type} [Spelled α] : Json → Option α
  | string text => Spelled.ofSpelling? text
  | object [(text, null)] => Spelled.ofSpelling? text
  | _ => none

def ofSpelled {α : Type} [Spelled α] (value : α) : Json := string (Spelled.spelling value)

/-- A value that null stands for the absence of. -/
def nullable? {α : Type} (read? : Json → Option α) : Json → Option (Option α)
  | null => some none
  | json => (read? json).map some

def ofNullable {α : Type} (write : α → Json) : Option α → Json
  | some value => write value
  | none => null

/-- Whether no field is given twice. -/
def GivesOnce (names : List String) (members : List (String × Json)) : Prop :=
  ((members.map Prod.fst).filter names.contains).Nodup

instance (names : List String) (members : List (String × Json)) : Decidable (GivesOnce names members) :=
  inferInstanceAs (Decidable (List.Nodup _))

/-- The fields that a record gives, by name. -/
def record? (names : List String) : Json → Option (String → Option Json)
  | object members => if GivesOnce names members then some (members.lookup ·) else none
  | array items => if items.length ≤ names.length then some ((names.zip items).lookup ·) else none
  | _ => none

/-- The value of a field, or its base where the record leaves it out. -/
def field? {α : Type} (fields : String → Option Json) (name : String) (read? : Json → Option α) (base : α) :
    Option α :=
  match fields name with
  | some json => read? json
  | none => some base

def required? {α : Type} (fields : String → Option Json) (name : String) (read? : Json → Option α) : Option α :=
  (fields name).bind read?

end Json

end CellFormat

/-!
Finite types whose values are each written as one fixed text.
-/

namespace CellFormat

/-- A type with a list of all its values and a text for each, no two values sharing one. -/
class Spelled (α : Type) where
  values : List α
  spelling : α → String
  mem_values : ∀ value, value ∈ values
  spelling_inj : ∀ a b, spelling a = spelling b → a = b

namespace Spelled

variable {α : Type} [Spelled α]

/-- The value with a given text. -/
def ofSpelling? (text : String) : Option α := values.find? fun value : α => spelling value == text

theorem ofSpelling?_spelling (value : α) : ofSpelling? (spelling value) = some value := by
  cases found : (ofSpelling? (spelling value) : Option α) with
  | none =>
    have absent := List.find?_eq_none.mp found value (mem_values value)
    simp at absent
  | some other =>
    have same : spelling other = spelling value := by simpa using List.find?_some found
    rw [spelling_inj _ _ same]

end Spelled

end CellFormat

import CellFormat.Text.Blank

/-!
Texts that a format code takes literally: quoted text, time separators that need no quotes, and the
content of a locale tag.
-/

namespace CellFormat

/-- Puts a backslash before each quote and each backslash. -/
def escapeQuoted (text : List Char) : List Char :=
  text.flatMap fun c => if c = '"' ∨ c = '\\' then ['\\', c] else [c]

/-- The text in quotes; the empty text needs none and leaves nothing. -/
def quote (text : String) : String :=
  if text.isEmpty then "" else String.ofList ('"' :: escapeQuoted text.toList ++ ['"'])

/-- Whether a text can follow a time token without quotes: it consists of colons and spaces, which
neither name a unit nor stand for a digit. -/
def isBareTimeText (text : String) : Bool :=
  !text.isEmpty && text.toList.all fun c => c == ':' || c == ' '

/-- Takes one opening bracket off a text, and with it one closing bracket if there is one. -/
def unbracket (text : List Char) : List Char :=
  match text with
  | '[' :: rest => trimBlank (if rest.getLast? = some ']' then rest.dropLast else rest)
  | _ => text

/-- The content of the locale tag that a text names, with or without brackets; none for a blank. -/
def localeTag? (text : String) : Option String :=
  match unbracket (trimBlank text.toList) with
  | [] => none
  | '$' :: rest => some (String.ofList ('$' :: rest))
  | content => some (String.ofList ('$' :: '-' :: content))

theorem localeTag?_head {text content : String} (tagged : localeTag? text = some content) :
    content.toList.head? = some '$' := by
  unfold localeTag? at tagged
  split at tagged
  · cases tagged
  · cases tagged
    simp
  · cases tagged
    simp

end CellFormat

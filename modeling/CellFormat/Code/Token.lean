import CellFormat.Code.Literal

/-!
The tokens of a format code and how each is written.
-/

namespace CellFormat

inductive Token
  | literal (char : Char)
  | escaped (char : Char)
  | quoted (text : String)
  | bracket (content : String)
  | sectionSep
  | endOfCode
  deriving DecidableEq, Repr

/-- The written form of a token. A quoted text may have others; this one escapes no more than it
must. -/
def Token.written : Token → List Char
  | literal char => [char]
  | escaped char => ['\\', char]
  | quoted text => '"' :: escapeQuoted text.toList ++ ['"']
  | bracket content => '[' :: content.toList ++ [']']
  | sectionSep => [';']
  | endOfCode => []

/-- What is wrong with a text that is no token. -/
inductive Fault
  | unterminatedQuote
  | unterminatedBracket
  | danglingEscape
  deriving DecidableEq, Repr

def Fault.subject : Fault → String
  | unterminatedQuote => "unterminated quoted literal"
  | unterminatedBracket => "unterminated bracket"
  | danglingEscape => "dangling escape character"

end CellFormat

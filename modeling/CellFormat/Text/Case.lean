import CellFormat.Text.CaseTable

/-!
Upper and lower case of texts, by the full case maps of Unicode. A capital sigma at the end of a word
has a lower case of its own; every other character is mapped without regard to its neighbours.
-/

namespace CellFormat

namespace CaseTable

/-- The characters a table gives for one character, itself where the table is silent. -/
def characters (runs : List Run) (expansions : List (Nat × List Nat)) (c : Char) : List Char :=
  match expansions.lookup c.toNat with
  | some codes => codes.map Char.ofNat
  | none =>
    match runs.findSome? (·.shift? c.toNat) with
    | some code => [Char.ofNat code]
    | none => [c]

/-- Whether the first character that is not passed over is a letter with case. -/
def casedNext (text : List Char) : Bool :=
  match text.dropWhile (fun c => inRanges caseIgnorableRanges c.toNat) with
  | [] => false
  | c :: _ => inRanges casedRanges c.toNat

end CaseTable

open CaseTable

/-- The lower case of a character on its own. -/
def lowerChar (c : Char) : List Char :=
  if c.toNat < 128 then [c.toLower] else characters lowerRuns lowerExpansions c

def upperChar (c : Char) : List Char :=
  if c.toNat < 128 then [c.toUpper] else characters upperRuns upperExpansions c

/-- The lower case of a text that follows `before`, which is listed backwards. -/
def lowerAfter : List Char → List Char → List Char
  | _, [] => []
  | before, c :: rest =>
    (if c = 'Σ' ∧ casedNext before ∧ ¬casedNext rest then ['ς'] else lowerChar c) ++
      lowerAfter (c :: before) rest

def lowercase (text : String) : String := String.ofList (lowerAfter [] text.toList)

def uppercase (text : String) : String := String.ofList (text.toList.flatMap upperChar)

end CellFormat

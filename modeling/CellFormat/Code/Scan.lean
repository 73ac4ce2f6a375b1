import CellFormat.Code.Piece

/-!
Scanning a format code: its tokens with their places in the source, counted in bytes of UTF-8. A strict
scan stops at the first fault; a recovering scan notes each fault and goes on with what can be made
of the faulty text. A scan can also be taken token by token, from a cursor.
-/

namespace CellFormat

def utf8Length : List Char → Nat
  | [] => 0
  | c :: rest => c.utf8Size + utf8Length rest

/-- A stretch of bytes, up to but not including `stop`. -/
structure Span where
  start : Nat
  stop : Nat
  deriving DecidableEq, Repr

structure LocatedToken where
  token : Token
  span : Span
  deriving DecidableEq, Repr

structure ScanError where
  fault : Fault
  position : Nat
  deriving DecidableEq, Repr

def ScanError.message (error : ScanError) : String :=
  error.fault.subject ++ " at position " ++ toString error.position

/-- The token that a recovering scan puts in place of a faulty text, if any: a quote runs to the end
of the code, a lone bracket stands for itself, and a lone backslash is dropped. -/
def Fault.repaired? (fault : Fault) (source : List Char) : Option Token :=
  match fault with
  | .unterminatedQuote => some (.quoted (String.ofList source.tail))
  | .unterminatedBracket => some (.literal '[')
  | .danglingEscape => none

/-- The tokens of the pieces that stand at an offset, closed by the end of the code. -/
def scanFrom (offset : Nat) : List Piece → Except ScanError (List LocatedToken)
  | [] => .ok [⟨.endOfCode, ⟨offset, offset⟩⟩]
  | piece :: rest =>
    let stop := offset + utf8Length piece.source
    match piece.reading with
    | .ok token => (scanFrom stop rest).map (⟨token, ⟨offset, stop⟩⟩ :: ·)
    | .error fault => .error ⟨fault, offset⟩

/-- The tokens and the faults of the pieces that stand at an offset. -/
def recoverFrom (offset : Nat) : List Piece → List LocatedToken × List ScanError
  | [] => ([⟨.endOfCode, ⟨offset, offset⟩⟩], [])
  | piece :: rest =>
    let stop := offset + utf8Length piece.source
    let (tokens, errors) := recoverFrom stop rest
    match piece.reading with
    | .ok token => (⟨token, ⟨offset, stop⟩⟩ :: tokens, errors)
    | .error fault =>
      let repaired := (fault.repaired? piece.source).map fun token => ⟨token, ⟨offset, stop⟩⟩
      (repaired.toList ++ tokens, ⟨fault, offset⟩ :: errors)

/-- A place in a code and the code from there on. -/
structure Cursor where
  offset : Nat
  rest : List Char

namespace Cursor

def start (code : String) : Cursor := ⟨0, code.toList⟩

/-- The next token or fault, and the cursor behind it. At the end of the code the cursor stays. -/
def next (cursor : Cursor) : Except ScanError LocatedToken × Cursor :=
  match cursor.rest with
  | [] => (.ok ⟨.endOfCode, ⟨cursor.offset, cursor.offset⟩⟩, cursor)
  | c :: rest =>
    let (piece, rest) := firstPiece c rest
    let stop := cursor.offset + utf8Length piece.source
    let outcome := match piece.reading with
      | .ok token => .ok ⟨token, ⟨cursor.offset, stop⟩⟩
      | .error fault => .error ⟨fault, cursor.offset⟩
    (outcome, ⟨stop, rest⟩)

/-- The outcomes of the next `count` steps, and the cursor behind them. -/
def take (cursor : Cursor) : Nat → List (Except ScanError LocatedToken) × Cursor
  | 0 => ([], cursor)
  | count + 1 =>
    let (outcome, after) := cursor.next
    let (outcomes, last) := after.take count
    (outcome :: outcomes, last)

def tokenize (cursor : Cursor) : Except ScanError (List LocatedToken) :=
  scanFrom cursor.offset (pieces cursor.rest)

def recover (cursor : Cursor) : List LocatedToken × List ScanError :=
  recoverFrom cursor.offset (pieces cursor.rest)

end Cursor

def tokenize (code : String) : Except ScanError (List LocatedToken) := (Cursor.start code).tokenize

/-- The tokens of a code as far as they can be made out, and every fault. -/
def recover (code : String) : List LocatedToken × List ScanError := (Cursor.start code).recover

def Piece.isSectionSep (piece : Piece) : Bool :=
  match piece.reading with
  | .ok .sectionSep => true
  | _ => false

def sectionsOf : List Piece → List (List Char)
  | [] => [[]]
  | piece :: rest =>
    if piece.isSectionSep then [] :: sectionsOf rest
    else match sectionsOf rest with
      | [] => [piece.source]
      | current :: later => (piece.source ++ current) :: later

/-- The sections of a code, or the first fault. A semicolon in quotes, in brackets or after a backslash
separates nothing. -/
def splitSections (code : String) : Except ScanError (List String) :=
  (tokenize code).map fun _ => (sectionsOf (pieces code.toList)).map String.ofList

end CellFormat

import CellFormat.Code.Token

/-!
A format code cut into pieces, each a token or a fault. The pieces leave nothing out: their source
texts, one after another, are the code (`pieces_flatMap_source`).
-/

namespace CellFormat

/-- A stretch of a code and what it reads as. -/
structure Piece where
  source : List Char
  reading : Except Fault Token

/-- A quoted text up to its closing quote, how it is written with that quote, and what follows. -/
structure QuotedBody where
  text : List Char
  source : List Char
  rest : List Char

/-- Finds the closing quote. A backslash takes the next character as it is. -/
def closeQuote? : List Char → Option QuotedBody
  | [] => none
  | '"' :: rest => some ⟨[], ['"'], rest⟩
  | ['\\'] => none
  | '\\' :: c :: rest =>
    (closeQuote? rest).map fun body => ⟨c :: body.text, '\\' :: c :: body.source, body.rest⟩
  | c :: rest => (closeQuote? rest).map fun body => ⟨c :: body.text, c :: body.source, body.rest⟩

/-- The first piece of a code that begins with `c`, and what follows it. A quote never closed takes all
the rest with it, a bracket never closed only itself. -/
def firstPiece (c : Char) (rest : List Char) : Piece × List Char :=
  match c with
  | '"' =>
    match closeQuote? rest with
    | some body => (⟨'"' :: body.source, .ok (.quoted (String.ofList body.text))⟩, body.rest)
    | none => (⟨'"' :: rest, .error .unterminatedQuote⟩, [])
  | '\\' =>
    match rest with
    | [] => (⟨['\\'], .error .danglingEscape⟩, [])
    | char :: rest => (⟨['\\', char], .ok (.escaped char)⟩, rest)
  | '[' =>
    let content := rest.takeWhile (· != ']')
    match rest.dropWhile (· != ']') with
    | [] => (⟨['['], .error .unterminatedBracket⟩, rest)
    | close :: rest => (⟨'[' :: content ++ [close], .ok (.bracket (String.ofList content))⟩, rest)
  | ';' => (⟨[';'], .ok .sectionSep⟩, rest)
  | c => (⟨[c], .ok (.literal c)⟩, rest)

theorem closeQuote?_source_append {rest : List Char} {body : QuotedBody} (closed : closeQuote? rest = some body) :
    body.source ++ body.rest = rest := by
  fun_induction closeQuote? rest generalizing body with
  | case1 => simp at closed
  | case2 rest => cases closed; rfl
  | case3 => simp at closed
  | case4 c rest ih | case5 c rest _ _ _ ih =>
    obtain ⟨inner, innerClosed, rfl⟩ := Option.map_eq_some_iff.mp closed
    simp [ih innerClosed]

theorem firstPiece_source_append (c : Char) (rest : List Char) :
    (firstPiece c rest).1.source ++ (firstPiece c rest).2 = c :: rest := by
  unfold firstPiece
  split
  · split
    · next closed => simp [closeQuote?_source_append closed]
    · simp
  · split <;> simp
  · split
    · simp
    · next close after found =>
      have whole := List.takeWhile_append_dropWhile (p := (· != ']')) (l := rest)
      rw [found] at whole
      simp [whole]
  · simp
  · simp

theorem firstPiece_source_ne_nil (c : Char) (rest : List Char) : (firstPiece c rest).1.source ≠ [] := by
  unfold firstPiece
  repeat' split
  all_goals simp

theorem firstPiece_rest_length (c : Char) (rest : List Char) :
    (firstPiece c rest).2.length < (c :: rest).length := by
  rw [← firstPiece_source_append c rest, List.length_append]
  exact Nat.lt_add_of_pos_left (List.length_pos_iff.mpr (firstPiece_source_ne_nil c rest))

def pieces : List Char → List Piece
  | [] => []
  | c :: rest => (firstPiece c rest).1 :: pieces (firstPiece c rest).2
  termination_by code => code.length
  decreasing_by exact firstPiece_rest_length c rest

theorem pieces_nil : pieces [] = [] := by simp [pieces]

theorem pieces_cons (c : Char) (rest : List Char) :
    pieces (c :: rest) = (firstPiece c rest).1 :: pieces (firstPiece c rest).2 := by
  rw [pieces]

theorem pieces_flatMap_source (code : List Char) : (pieces code).flatMap Piece.source = code := by
  fun_induction pieces code with
  | case1 => rfl
  | case2 c rest ih => rw [List.flatMap_cons, ih, firstPiece_source_append]

end CellFormat

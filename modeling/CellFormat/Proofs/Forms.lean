import CellFormat.Code.Piece

/-!
The forms in which tokens stand in a code, and that the first piece of a text is a token just if one of
its forms opens the text.
-/

namespace CellFormat

/-- What can stand between quotes, and the text it reads as: a backslash only before the character that
it lets pass. -/
inductive QuotedInside : List Char → List Char → Prop
  | nil : QuotedInside [] []
  | plain {c inside text} :
      c ≠ '"' → c ≠ '\\' → QuotedInside inside text → QuotedInside (c :: inside) (c :: text)
  | escaped {c inside text} : QuotedInside inside text → QuotedInside ('\\' :: c :: inside) (c :: text)

/-- The forms in which a token can stand in a code. The end of the code has none. -/
inductive Token.Form : Token → List Char → Prop
  | literal {c} : c ≠ '"' → c ≠ '\\' → c ≠ '[' → c ≠ ';' → Form (literal c) [c]
  | escaped {c} : Form (escaped c) ['\\', c]
  | quoted {inside text} :
      QuotedInside inside text → Form (quoted (String.ofList text)) ('"' :: inside ++ ['"'])
  | bracket {content} : ']' ∉ content → Form (bracket (String.ofList content)) ('[' :: content ++ [']'])
  | sectionSep : Form sectionSep [';']

theorem closeQuote?_of_inside {inside text : List Char} (valid : QuotedInside inside text)
    (more : List Char) :
    closeQuote? (inside ++ '"' :: more) = some ⟨text, inside ++ ['"'], more⟩ := by
  induction valid with
  | nil => rfl
  | plain noQuote noEscape _ ih => simp [closeQuote?, noEscape, ih]
  | escaped _ ih => simp [closeQuote?, ih]

/-- The closing quote is the first that no backslash lets pass. -/
theorem closeQuote?_eq_some_iff {rest : List Char} {body : QuotedBody} :
    closeQuote? rest = some body ↔ ∃ inside, QuotedInside inside body.text ∧
      body.source = inside ++ ['"'] ∧ rest = inside ++ '"' :: body.rest := by
  constructor
  · intro closed
    fun_induction closeQuote? rest generalizing body with
    | case1 => simp at closed
    | case2 rest =>
      cases closed
      exact ⟨[], .nil, rfl, rfl⟩
    | case3 => simp at closed
    | case4 c rest ih =>
      obtain ⟨inner, innerClosed, rfl⟩ := Option.map_eq_some_iff.mp closed
      obtain ⟨inside, valid, source, whole⟩ := ih innerClosed
      exact ⟨'\\' :: c :: inside, .escaped valid, by simp [source], by simp [whole]⟩
    | case5 c rest noQuote notLast notBefore ih =>
      obtain ⟨inner, innerClosed, rfl⟩ := Option.map_eq_some_iff.mp closed
      obtain ⟨inside, valid, source, whole⟩ := ih innerClosed
      have noEscape : c ≠ '\\' := by
        intro escape
        cases rest with
        | nil => exact notLast escape rfl
        | cons next rest => exact notBefore next rest escape rfl
      exact ⟨c :: inside, .plain noQuote noEscape valid, by simp [source], by simp [whole]⟩
  · rintro ⟨inside, valid, source, rfl⟩
    rw [closeQuote?_of_inside valid, ← source]

theorem closeQuote?_eq_none_iff {rest : List Char} :
    closeQuote? rest = none ↔
      ∀ inside text more, QuotedInside inside text → rest ≠ inside ++ '"' :: more := by
  constructor
  · rintro unclosed inside text more valid rfl
    rw [closeQuote?_of_inside valid] at unclosed
    contradiction
  · intro never
    cases closed : closeQuote? rest with
    | none => rfl
    | some body =>
      obtain ⟨inside, valid, _, whole⟩ := closeQuote?_eq_some_iff.mp closed
      exact absurd whole (never inside body.text body.rest valid)

theorem firstPiece_of_form {c : Char} {rest source after : List Char} {token : Token}
    (form : token.Form source) (whole : source ++ after = c :: rest) :
    firstPiece c rest = (⟨source, .ok token⟩, after) := by
  cases form with
  | literal noQuote noEscape noBracket noSeparator =>
    cases whole
    unfold firstPiece
    split <;> first | contradiction | rfl
  | escaped =>
    cases whole
    rfl
  | @quoted inside text valid =>
    have tail : inside ++ '"' :: after = rest := by simpa using congrArg List.tail whole
    have quote : c = '"' := by simpa using (congrArg List.head? whole).symm
    subst tail quote
    simp [firstPiece, closeQuote?_of_inside valid]
  | @bracket content inside =>
    have tail : content ++ ']' :: after = rest := by simpa using congrArg List.tail whole
    have bracket : c = '[' := by simpa using (congrArg List.head? whole).symm
    subst tail bracket
    have noClosing : ∀ c ∈ content, (c != ']') = true := by
      rintro c member
      rw [bne_iff_ne]
      rintro rfl
      exact inside member
    simp [firstPiece, List.takeWhile_append_of_pos noClosing, List.dropWhile_append_of_pos noClosing]
  | sectionSep =>
    cases whole
    rfl

theorem closing_notMem_takeWhile (text : List Char) : ']' ∉ text.takeWhile (· != ']') := by
  intro member
  have inside := List.all_eq_true.mp List.all_takeWhile _ member
  simp at inside

/-- The first piece of a text is a token just if a form of the token opens the text. -/
theorem firstPiece_eq_ok_iff {c : Char} {rest source after : List Char} {token : Token} :
    firstPiece c rest = (⟨source, .ok token⟩, after) ↔ token.Form source ∧ source ++ after = c :: rest := by
  constructor
  · intro read
    have whole := firstPiece_source_append c rest
    rw [read] at whole
    refine ⟨?_, whole⟩
    unfold firstPiece at read
    split at read
    · split at read
      · next body closed =>
        cases read
        obtain ⟨inside, valid, written, _⟩ := closeQuote?_eq_some_iff.mp closed
        rw [written]
        exact .quoted valid
      · cases read
    · split at read
      · cases read
      · cases read
        exact .escaped
    · split at read
      · cases read
      · next close after found =>
        cases read
        have closing : close = ']' := by
          have stop := List.head?_dropWhile_not (· != ']') rest
          simpa [found] using stop
        subst closing
        exact .bracket (closing_notMem_takeWhile rest)
    · cases read
      exact .sectionSep
    · next noQuote noEscape noBracket noSeparator =>
      cases read
      exact .literal noQuote noEscape noBracket noSeparator
  · rintro ⟨form, whole⟩
    exact firstPiece_of_form form whole

/-- How a fault stands in a text from its first character on. -/
def Fault.Opens (fault : Fault) (c : Char) (rest : List Char) : Prop :=
  match fault with
  | unterminatedQuote =>
    c = '"' ∧ ∀ inside text more, QuotedInside inside text → rest ≠ inside ++ '"' :: more
  | unterminatedBracket => c = '[' ∧ ']' ∉ rest
  | danglingEscape => c = '\\' ∧ rest = []

theorem Fault.Opens.unique {fault other : Fault} {c : Char} {rest : List Char} (opens : fault.Opens c rest)
    (again : other.Opens c rest) : fault = other := by
  cases fault <;> cases other <;> first | rfl | exact absurd (opens.1.symm.trans again.1) (by decide)

theorem Fault.opens_of_firstPiece {fault : Fault} {c : Char} {rest source after : List Char}
    (read : firstPiece c rest = (⟨source, .error fault⟩, after)) : fault.Opens c rest := by
  unfold firstPiece at read
  split at read
  · split at read
    · cases read
    · next unclosed =>
      cases read
      exact ⟨rfl, closeQuote?_eq_none_iff.mp unclosed⟩
  · split at read
    · cases read
      exact ⟨rfl, rfl⟩
    · cases read
  · split at read
    · next unclosed =>
      cases read
      have whole := List.takeWhile_append_dropWhile (p := (· != ']')) (l := rest)
      rw [unclosed, List.append_nil] at whole
      exact ⟨rfl, whole ▸ closing_notMem_takeWhile rest⟩
    · cases read
  · cases read
  · cases read

end CellFormat

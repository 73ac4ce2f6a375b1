import CellFormat.Color
import CellFormat.Proofs.NumberText
import CellFormat.Proofs.Reads

/-!
Scanning undoes writing: tokens written one after another scan to just these tokens, whatever their
neighbours. With it, the tokens of the texts that codes are put together from.
-/

namespace CellFormat

/-- Whether a token has a written form. A literal must not open a token of another kind, a bracket ends
at its first closing bracket, and an empty text leaves nothing behind. -/
def Token.Writable : Token → Prop
  | literal char => char ≠ '"' ∧ char ≠ '\\' ∧ char ≠ '[' ∧ char ≠ ';'
  | escaped _ => True
  | quoted text => text ≠ ""
  | bracket content => ']' ∉ content.toList
  | sectionSep => True
  | endOfCode => False

instance : DecidablePred Token.Writable
  | .literal _ => inferInstanceAs (Decidable (_ ∧ _))
  | .escaped _ | .sectionSep => .isTrue trivial
  | .quoted _ => inferInstanceAs (Decidable (_ ≠ _))
  | .bracket _ => inferInstanceAs (Decidable (_ ∉ _))
  | .endOfCode => .isFalse id

/-- The code of a token. -/
def Token.code : Token → String
  | literal char => .singleton char
  | escaped char => "\\" ++ .singleton char
  | quoted text => quote text
  | bracket content => "[" ++ content ++ "]"
  | sectionSep => ";"
  | endOfCode => ""

/-- The code of a token's text is what `Token.written` lists. -/
theorem Token.toList_code {token : Token} (writable : token.Writable) :
    token.code.toList = token.written := by
  cases token with
  | quoted text => simp [code, written, quote, String.isEmpty_iff, show text ≠ "" from writable]
  | literal | escaped | bracket | sectionSep | endOfCode => simp [code, written]

/-- Escaping is doubling the backslashes and then putting one before each quote. The other order would
double those before the quotes too. -/
theorem escapeQuoted_eq_flatMap_flatMap (text : List Char) :
    escapeQuoted text = (text.flatMap fun c => if c = '\\' then ['\\', '\\'] else [c]).flatMap
      fun c => if c = '"' then ['\\', '"'] else [c] := by
  rw [List.flatMap_assoc, escapeQuoted]
  congr 1
  funext c
  by_cases quoteMark : c = '"' <;> by_cases backslash : c = '\\' <;> simp_all

theorem quotedInside_escapeQuoted (text : List Char) : QuotedInside (escapeQuoted text) text := by
  induction text with
  | nil => exact .nil
  | cons c text ih =>
    by_cases special : c = '"' ∨ c = '\\'
    · have escape : escapeQuoted (c :: text) = '\\' :: c :: escapeQuoted text := by
        simp [escapeQuoted, special]
      exact escape ▸ .escaped ih
    · have plain : escapeQuoted (c :: text) = c :: escapeQuoted text := by
        simp [escapeQuoted, special]
      rw [not_or] at special
      exact plain ▸ .plain special.1 special.2 ih

theorem Token.form_written {token : Token} (writable : token.Writable) : token.Form token.written := by
  cases token with
  | literal c =>
    obtain ⟨noQuote, noEscape, noBracket, noSeparator⟩ := writable
    exact .literal noQuote noEscape noBracket noSeparator
  | escaped c => exact .escaped
  | quoted text =>
    have form := Form.quoted (quotedInside_escapeQuoted text.toList)
    rwa [String.ofList_toList] at form
  | bracket content =>
    have form := Form.bracket writable
    rwa [String.ofList_toList] at form
  | sectionSep => exact .sectionSep
  | endOfCode => exact writable.elim

theorem Token.scans_code {token : Token} (writable : token.Writable) : Scans token.code [token] := by
  rw [scans_iff_reads, toList_code writable]
  exact (form_written writable).reads

theorem scans_join {α : Type} {code : α → String} {tokens : α → List Token} {parts : List α}
    (each : ∀ part ∈ parts, Scans (code part) (tokens part)) :
    Scans (String.join (parts.map code)) (parts.flatMap tokens) := by
  induction parts with
  | nil => exact .empty
  | cons part rest ih =>
    have others := ih fun later member => each later (List.mem_cons_of_mem _ member)
    rw [List.map_cons, String.join_cons]
    exact (each part List.mem_cons_self).append others

/-- Tokens written one after another. -/
def codeOf (tokens : List Token) : String := String.join (tokens.map Token.code)

theorem scans_codeOf {tokens : List Token} (writable : ∀ token ∈ tokens, token.Writable) :
    Scans (codeOf tokens) tokens := by
  have scans := scans_join fun token member => Token.scans_code (writable token member)
  rwa [List.flatMap_singleton'] at scans

/-- Characters that stand for themselves. -/
def literals (text : String) : List Token := text.toList.map Token.literal

theorem scans_literals {text : String} (plain : ∀ c ∈ text.toList, (Token.literal c).Writable) :
    Scans text (literals text) := by
  have writable : ∀ token ∈ literals text, token.Writable := by
    intro token member
    obtain ⟨c, inside, rfl⟩ := List.mem_map.mp member
    exact plain c inside
  have code : codeOf (literals text) = text := by
    rw [← String.toList_inj]
    simp [codeOf, literals, String.toList_join, List.flatMap_map, Token.code]
  have scans := scans_codeOf writable
  rwa [code] at scans

theorem literals_inj {text other : String} (same : literals text = literals other) : text = other := by
  rw [← String.toList_inj]
  exact (List.map_inj_right fun _ _ => Token.literal.inj).mp same

theorem literals_ne_nil {text : String} (nonempty : text ≠ "") : literals text ≠ [] := by
  simpa [literals] using nonempty

theorem literals_ne_quoted {text quoted : String} : literals text ≠ [.quoted quoted] := by
  intro same
  have member : Token.quoted quoted ∈ literals text := by simp [same]
  simp [literals] at member

/-- The token of a quoted text; the empty text has none. -/
def quotes (text : String) : List Token := if text.isEmpty then [] else [.quoted text]

theorem scans_quote (text : String) : Scans (quote text) (quotes text) := by
  by_cases empty : text = ""
  · subst empty
    exact .empty
  · have tokens : quotes text = [.quoted text] := by simp [quotes, empty]
    rw [tokens]
    exact @Token.scans_code (.quoted text) empty

theorem scans_bracket {content : String} (inside : ']' ∉ content.toList) :
    Scans ("[" ++ content ++ "]") [.bracket content] :=
  @Token.scans_code (.bracket content) inside

theorem Token.Form.closing_notMem {content : String} {source : List Char}
    (form : (Token.bracket content).Form source) : ']' ∉ content.toList := by
  cases form with
  | bracket inside => rwa [String.toList_ofList]

/-- A content with a closing bracket in it cannot be read back from a bracket. -/
theorem Scans.closing_notMem {code content : String} {tokens : List Token}
    (scans : Scans code (.bracket content :: tokens)) : ']' ∉ content.toList := by
  have reads := scans_iff_reads.mp scans
  cases opened : code.toList with
  | nil =>
    rw [opened] at reads
    cases reads
  | cons c rest =>
    rw [opened] at reads
    cases reads with
    | next read _ => exact (firstPiece_eq_ok_iff.mp read).1.closing_notMem

def colorTokens : Option Color → List Token
  | some color => [.bracket color.name]
  | none => []

theorem scans_colorTag (color : Option Color) : Scans (Color.tag color) (colorTokens color) := by
  cases color with
  | none => exact .empty
  | some color => exact scans_bracket (by cases color <;> decide)

def conditionTokens : Option Condition → List Token
  | some condition => [.bracket condition.text]
  | none => []

theorem scans_conditionTag (condition : Option Condition) :
    Scans (match condition with | some condition => condition.tag | none => "") (conditionTokens condition) := by
  cases condition with
  | none => exact .empty
  | some condition => exact scans_bracket condition.closing_notMem_text

@[simp] theorem sectionSep_notMem_literals (text : String) : .sectionSep ∉ literals text := by
  simp [literals]

@[simp] theorem sectionSep_notMem_quotes (text : String) : .sectionSep ∉ quotes text := by
  unfold quotes
  split <;> simp

@[simp] theorem sectionSep_notMem_colorTokens (color : Option Color) : .sectionSep ∉ colorTokens color := by
  cases color <;> simp [colorTokens]

@[simp] theorem sectionSep_notMem_conditionTokens (condition : Option Condition) :
    .sectionSep ∉ conditionTokens condition := by
  cases condition <;> simp [conditionTokens]

/-- Writing tokens and scanning the code gives back the tokens, and the end stands behind its last byte. -/
theorem tokenize_codeOf {tokens : List Token} (writable : ∀ token ∈ tokens, token.Writable) :
    ∃ found, tokenize (codeOf tokens) =
        .ok (found ++ [⟨.endOfCode, ⟨(codeOf tokens).utf8ByteSize, (codeOf tokens).utf8ByteSize⟩⟩]) ∧
      found.map LocatedToken.token = tokens := by
  obtain ⟨found, scanned, same⟩ := (scans_iff_reads.mp (scans_codeOf writable)).located 0
  rw [Nat.zero_add, utf8Length_toList] at scanned
  exact ⟨found, scanned, same⟩

theorem tokenize_codeOf_mixed :
    let tokens := [.quoted "a\"b\\;[é", .quoted "\\", .escaped '"', .bracket "Red;\"", .literal ']',
      .sectionSep, .literal '€', .escaped '\\', .quoted "]"]
    (∀ token ∈ tokens, token.Writable) ∧ ∃ found, tokenize (codeOf tokens) =
        .ok (found ++ [⟨.endOfCode, ⟨(codeOf tokens).utf8ByteSize, (codeOf tokens).utf8ByteSize⟩⟩]) ∧
      found.map LocatedToken.token = tokens := by
  intro tokens
  have writable : ∀ token ∈ tokens, token.Writable := by decide
  exact ⟨writable, tokenize_codeOf writable⟩

end CellFormat

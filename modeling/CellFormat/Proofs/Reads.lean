import CellFormat.Code.Scan
import CellFormat.Proofs.Forms

/-!
Scanning without a fault as a relation between a text and its tokens. What has been read stays read when
more text follows, so the tokens of texts put together are the tokens of the texts.
-/

namespace CellFormat

/-- What makes a token is settled by the text up to its end: no token swallows what follows it. -/
theorem firstPiece_append {c : Char} {rest source after : List Char} {token : Token}
    (read : firstPiece c rest = (⟨source, .ok token⟩, after)) (more : List Char) :
    firstPiece c (rest ++ more) = (⟨source, .ok token⟩, after ++ more) := by
  obtain ⟨form, whole⟩ := firstPiece_eq_ok_iff.mp read
  refine firstPiece_eq_ok_iff.mpr ⟨form, ?_⟩
  rw [← List.append_assoc, whole, List.cons_append]

theorem utf8Length_append (first second : List Char) :
    utf8Length (first ++ second) = utf8Length first + utf8Length second := by
  induction first with
  | nil => simp [utf8Length]
  | cons c rest ih => simp [utf8Length, ih, Nat.add_assoc]

theorem utf8Length_pos {text : List Char} (nonempty : text ≠ []) : 0 < utf8Length text := by
  obtain ⟨c, rest, rfl⟩ := List.exists_cons_of_ne_nil nonempty
  exact Nat.add_pos_left (Char.utf8Size_pos c) _

theorem utf8Length_toList (text : String) : utf8Length text.toList = text.utf8ByteSize := by
  have spelled : ∀ letters : List Char, utf8Length letters = letters.utf8Encode.size := by
    intro letters
    induction letters with
    | nil => rfl
    | cons c rest ih =>
      rw [List.utf8Encode_cons, ByteArray.size_append, ← ih, utf8Length, List.utf8Encode_singleton]
      simp
  rw [spelled, String.utf8Encode_toList]
  rfl

/-- A text that scans without a fault, and its tokens. -/
inductive Reads : List Char → List Token → Prop
  | done : Reads [] []
  | next {c rest source token after tokens} :
      firstPiece c rest = (⟨source, .ok token⟩, after) → Reads after tokens →
      Reads (c :: rest) (token :: tokens)

namespace Reads

theorem append {first second : List Char} {tokens others : List Token} (reads : Reads first tokens)
    (further : Reads second others) : Reads (first ++ second) (tokens ++ others) := by
  induction reads with
  | done => exact further
  | next read _ ih => exact .next (firstPiece_append read second) ih

theorem unique {text : List Char} {tokens others : List Token} (reads : Reads text tokens)
    (again : Reads text others) : tokens = others := by
  induction reads generalizing others with
  | done => cases again; rfl
  | next read _ ih =>
    cases again with
    | next readAgain later =>
      rw [read] at readAgain
      cases readAgain
      rw [ih later]

/-- The scan of a text that reads, wherever it stands: its tokens, then the end behind its last byte. -/
theorem located {text : List Char} {tokens : List Token} (reads : Reads text tokens) (offset : Nat) :
    ∃ found, scanFrom offset (pieces text) =
        .ok (found ++ [⟨.endOfCode, ⟨offset + utf8Length text, offset + utf8Length text⟩⟩]) ∧
      found.map LocatedToken.token = tokens := by
  induction reads generalizing offset with
  | done => exact ⟨[], by simp [pieces_nil, scanFrom, utf8Length], rfl⟩
  | @next c rest source token after tokens read _ ih =>
    obtain ⟨found, scanned, same⟩ := ih (offset + utf8Length source)
    have whole := firstPiece_source_append c rest
    rw [read] at whole
    have size : utf8Length (c :: rest) = utf8Length source + utf8Length after := by
      rw [← whole, utf8Length_append]
    refine ⟨⟨token, ⟨offset, offset + utf8Length source⟩⟩ :: found, ?_, by simp [same]⟩
    simp only [pieces_cons, read, scanFrom, scanned, Except.map, size, List.cons_append, Nat.add_assoc]

/-- A scan that meets no fault has read the whole text. -/
theorem of_scanFrom {text : List Char} {offset : Nat} {found : List LocatedToken}
    (scanned : scanFrom offset (pieces text) = .ok found) :
    ∃ tokens, Reads text tokens ∧ found.map LocatedToken.token = tokens ++ [.endOfCode] := by
  fun_induction pieces text generalizing offset found with
  | case1 =>
    rw [scanFrom] at scanned
    cases scanned
    exact ⟨[], .done, rfl⟩
  | case2 c rest ih =>
    rcases read : firstPiece c rest with ⟨⟨source, reading⟩, after⟩
    rw [read] at scanned ih
    cases reading with
    | error fault => cases scanned
    | ok token =>
      simp only [scanFrom] at scanned
      cases later : scanFrom (offset + utf8Length source) (pieces after) with
      | error fault => rw [later] at scanned; cases scanned
      | ok foundLater =>
        obtain ⟨tokens, reads, same⟩ := ih later
        rw [later] at scanned
        cases scanned
        exact ⟨token :: tokens, .next read reads, by simp [same]⟩

end Reads

theorem Token.Form.reads {source : List Char} {token : Token} (form : token.Form source) :
    Reads source [token] := by
  cases opened : source with
  | nil =>
    subst opened
    cases form
  | cons c rest =>
    have read : firstPiece c rest = (⟨source, .ok token⟩, []) :=
      firstPiece_eq_ok_iff.mpr ⟨form, by simp [opened]⟩
    exact .next read .done

/-- The code scans without a fault, to the given tokens and then the end. -/
def Scans (code : String) (tokens : List Token) : Prop :=
  (tokenize code).map (List.map LocatedToken.token) = .ok (tokens ++ [.endOfCode])

theorem scans_iff_reads {code : String} {tokens : List Token} :
    Scans code tokens ↔ Reads code.toList tokens := by
  constructor
  · intro scans
    cases scanned : tokenize code with
    | error fault => rw [Scans, scanned] at scans; cases scans
    | ok found =>
      obtain ⟨read, reads, same⟩ := Reads.of_scanFrom scanned
      rw [Scans, scanned] at scans
      have equal := same.symm.trans (Except.ok.inj scans)
      rw [List.append_cancel_right_eq] at equal
      exact equal ▸ reads
  · intro reads
    obtain ⟨found, scanned, same⟩ := reads.located 0
    have whole : tokenize code = _ := scanned
    rw [Scans, whole]
    simp [Except.map, same]

namespace Scans

theorem empty : Scans "" [] := scans_iff_reads.mpr .done

theorem append {first second : String} {tokens others : List Token} (scans : Scans first tokens)
    (further : Scans second others) : Scans (first ++ second) (tokens ++ others) := by
  rw [scans_iff_reads, String.toList_append]
  exact (scans_iff_reads.mp scans).append (scans_iff_reads.mp further)

theorem unique {code : String} {tokens others : List Token} (scans : Scans code tokens)
    (again : Scans code others) : tokens = others :=
  (scans_iff_reads.mp scans).unique (scans_iff_reads.mp again)

theorem tokenize_ok {code : String} {tokens : List Token} (scans : Scans code tokens) :
    ∃ found, tokenize code = .ok found := by
  obtain ⟨found, scanned, _⟩ := (scans_iff_reads.mp scans).located 0
  exact ⟨_, scanned⟩

end Scans

end CellFormat

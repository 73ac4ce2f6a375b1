import CellFormat.Proofs.Spans

/-!
The scan that goes on behind its faults. It finds what the strict scan finds up to the first fault, and what
it makes of the rest still covers the code.
-/

namespace CellFormat

/-- A strict scan is a recovering one that gives up on the first fault. -/
theorem scanFrom_eq_recoverFrom (offset : Nat) (found : List Piece) :
    scanFrom offset found =
      match (recoverFrom offset found).2.head? with
      | some error => .error error
      | none => .ok (recoverFrom offset found).1 := by
  induction found generalizing offset with
  | nil => rfl
  | cons piece rest ih =>
    cases reading : piece.reading with
    | error fault => simp [scanFrom, recoverFrom, reading]
    | ok token =>
      simp only [scanFrom, recoverFrom, reading, ih]
      cases (recoverFrom (offset + utf8Length piece.source) rest).2 <;> rfl

theorem tokenize_eq_recover (code : String) :
    tokenize code =
      match (recover code).2.head? with
      | some error => .error error
      | none => .ok (recover code).1 :=
  scanFrom_eq_recoverFrom 0 (pieces code.toList)

theorem recover_of_tokenize {code : String} {found : List LocatedToken} (scanned : tokenize code = .ok found) :
    recover code = (found, []) := by
  have strict := tokenize_eq_recover code
  rw [scanned] at strict
  rcases recovered : recover code with ⟨tokens, errors⟩
  rw [recovered] at strict
  cases errors with
  | nil => rw [Except.ok.inj strict]
  | cons => cases strict

/-- A bracket never closed takes only itself, the other faults take all the rest. -/
theorem Fault.source_of_firstPiece {fault : Fault} {c : Char} {rest source after : List Char}
    (read : firstPiece c rest = (⟨source, .error fault⟩, after)) :
    if fault = .unterminatedBracket then source = [c] ∧ after = rest else source = c :: rest ∧ after = [] := by
  unfold firstPiece at read
  split at read
  · split at read <;> cases read
    exact ⟨rfl, rfl⟩
  · split at read <;> cases read
    exact ⟨rfl, rfl⟩
  · split at read <;> cases read
    exact ⟨rfl, rfl⟩
  · cases read
  · cases read

/-- What a recovering scan makes of a text from an offset on: its tokens and its faults. -/
inductive Recovers : Nat → List Char → List LocatedToken → List ScanError → Prop
  | finish {offset} : Recovers offset [] [⟨.endOfCode, ⟨offset, offset⟩⟩] []
  | next {offset source after tokens errors} {token : Token} :
      token.Form source → Recovers (offset + utf8Length source) after tokens errors →
      Recovers offset (source ++ after) (⟨token, ⟨offset, offset + utf8Length source⟩⟩ :: tokens) errors
  | openBracket {offset after tokens errors} :
      ']' ∉ after → Recovers (offset + 1) after tokens errors →
      Recovers offset ('[' :: after) (⟨.literal '[', ⟨offset, offset + 1⟩⟩ :: tokens)
        (⟨.unterminatedBracket, offset⟩ :: errors)
  | openQuote {offset inside} :
      Recovers offset ('"' :: inside)
        [⟨.quoted (String.ofList inside), ⟨offset, offset + utf8Length ('"' :: inside)⟩⟩,
          ⟨.endOfCode, ⟨offset + utf8Length ('"' :: inside), offset + utf8Length ('"' :: inside)⟩⟩]
        [⟨.unterminatedQuote, offset⟩]
  | openEscape {offset} :
      Recovers offset ['\\'] [⟨.endOfCode, ⟨offset + 1, offset + 1⟩⟩] [⟨.danglingEscape, offset⟩]

theorem recovers_recoverFrom (text : List Char) (offset : Nat) :
    Recovers offset text (recoverFrom offset (pieces text)).1 (recoverFrom offset (pieces text)).2 := by
  fun_induction pieces text generalizing offset with
  | case1 => exact .finish
  | case2 c rest ih =>
    rcases read : firstPiece c rest with ⟨⟨source, reading⟩, after⟩
    rw [read] at ih
    have later := ih (offset + utf8Length source)
    cases reading with
    | ok token =>
      obtain ⟨form, whole⟩ := firstPiece_eq_ok_iff.mp read
      rw [← whole]
      exact .next form later
    | error fault =>
      have opens := Fault.opens_of_firstPiece read
      have taken := Fault.source_of_firstPiece read
      cases fault with
      | unterminatedBracket =>
        obtain ⟨rfl, rfl⟩ := taken
        obtain ⟨rfl, unclosed⟩ := opens
        exact .openBracket unclosed later
      | unterminatedQuote =>
        obtain ⟨rfl, rfl⟩ := taken
        obtain ⟨rfl, _⟩ := opens
        rw [pieces_nil]
        exact .openQuote
      | danglingEscape =>
        obtain ⟨rfl, rfl⟩ := taken
        obtain ⟨rfl, rfl⟩ := opens
        rw [pieces_nil]
        exact .openEscape

theorem Token.Form.utf8Length_pos {source : List Char} {token : Token} (form : token.Form source) :
    0 < utf8Length source := by
  cases form <;> exact Nat.add_pos_left (Char.utf8Size_pos _) _

/-- Spans laid end to end from one offset to another, none of them empty. -/
inductive Tiles : Nat → List Span → Nat → Prop
  | none {offset} : Tiles offset [] offset
  | next {start stop finish later} :
      start < stop → Tiles stop later finish → Tiles start (⟨start, stop⟩ :: later) finish

/-- What a recovering scan leaves out at the end of a code: a backslash with nothing behind it. -/
def uncovered (errors : List ScanError) : List Char :=
  if ∃ error ∈ errors, error.fault = .danglingEscape then ['\\'] else []

namespace Recovers

variable {offset : Nat} {text : List Char} {tokens : List LocatedToken} {errors : List ScanError}

theorem position_ge (recovers : Recovers offset text tokens errors) {error : ScanError}
    (member : error ∈ errors) : offset ≤ error.position := by
  induction recovers with
  | finish => cases member
  | next _ _ ih => exact Nat.le_of_add_right_le (ih member)
  | openBracket _ _ ih =>
    rcases List.mem_cons.mp member with rfl | later
    · exact le_rfl
    · have behind := ih later
      omega
  | openQuote | openEscape =>
    cases List.mem_singleton.mp member
    exact le_rfl

theorem positions_increase (recovers : Recovers offset text tokens errors) :
    errors.Pairwise fun earlier later => earlier.position < later.position := by
  induction recovers with
  | finish => exact .nil
  | next _ _ ih => exact ih
  | openBracket _ after ih =>
    refine List.pairwise_cons.mpr ⟨fun later member => ?_, ih⟩
    have behind := after.position_ge member
    exact behind
  | openQuote | openEscape => exact List.pairwise_singleton _ _

/-- A quote or a backslash that is a fault takes all the rest, so nothing is found behind it. -/
theorem fault_of_mem_dropLast (recovers : Recovers offset text tokens errors) {error : ScanError}
    (member : error ∈ errors.dropLast) : error.fault = .unterminatedBracket := by
  induction recovers with
  | finish => cases member
  | next _ _ ih => exact ih member
  | @openBracket offset after tokens errors _ _ ih =>
    by_cases last : errors = []
    · rw [last] at member
      cases member
    · rw [List.dropLast_cons_of_ne_nil last] at member
      rcases List.mem_cons.mp member with rfl | later
      · rfl
      · exact ih later
  | openQuote | openEscape => cases member

theorem ne_bracket (recovers : Recovers offset text tokens errors) (unclosed : ']' ∉ text)
    {located : LocatedToken} (member : located ∈ tokens) (content : String) :
    located.token ≠ .bracket content := by
  induction recovers with
  | finish => simp_all
  | @next offset source after tokens errors token form _ ih =>
    rw [List.mem_append, not_or] at unclosed
    rcases List.mem_cons.mp member with rfl | later
    · rintro rfl
      cases form
      simp at unclosed
    · exact ih unclosed.2 later
  | openBracket inside _ ih =>
    rcases List.mem_cons.mp member with rfl | later
    · simp
    · exact ih inside later
  | openQuote =>
    rcases List.mem_pair.mp member with rfl | rfl <;> simp
  | openEscape => simp_all

/-- What opens no bracket because no bracket closes behind it leaves none to open later. -/
theorem bracket_before (recovers : Recovers offset text tokens errors) {error : ScanError}
    (reported : error ∈ errors) (unclosed : error.fault = .unterminatedBracket) {located : LocatedToken}
    {content : String} (member : located ∈ tokens) (bracket : located.token = .bracket content) :
    located.span.start < error.position := by
  induction recovers with
  | finish => cases reported
  | @next offset source after tokens errors token form later ih =>
    rcases List.mem_cons.mp member with rfl | inside
    · have behind := later.position_ge reported
      have width := form.utf8Length_pos
      show offset < error.position
      omega
    · exact ih reported inside
  | openBracket noClosing later ih =>
    rcases List.mem_cons.mp member with rfl | inside
    · cases bracket
    · exact absurd bracket (later.ne_bracket noClosing inside content)
  | openQuote | openEscape =>
    rw [List.mem_singleton.mp reported] at unclosed
    cases unclosed

/-- The tokens before the end lie end to end, up to a backslash that escapes nothing. -/
theorem tiles (recovers : Recovers offset text tokens errors) :
    ∃ inner covered, tokens =
        inner ++ [⟨.endOfCode, ⟨offset + utf8Length text, offset + utf8Length text⟩⟩] ∧
      (∀ located ∈ inner, located.token ≠ .endOfCode) ∧ text = covered ++ uncovered errors ∧
      Tiles offset (inner.map LocatedToken.span) (offset + utf8Length covered) := by
  induction recovers with
  | finish => exact ⟨[], [], rfl, by simp, rfl, .none⟩
  | @next offset source after tokens errors token form _ ih =>
    obtain ⟨inner, covered, rfl, others, whole, tiles⟩ := ih
    refine ⟨⟨token, ⟨offset, offset + utf8Length source⟩⟩ :: inner, source ++ covered, ?_, ?_, ?_, ?_⟩
    · simp only [utf8Length_append, Nat.add_assoc, List.cons_append]
    · exact List.forall_mem_cons.mpr ⟨form.ne_endOfCode, others⟩
    · rw [List.append_assoc, ← whole]
    · have width := form.utf8Length_pos
      rw [utf8Length_append, ← Nat.add_assoc]
      exact .next (by omega) tiles
  | @openBracket offset after tokens errors _ _ ih =>
    obtain ⟨inner, covered, rfl, others, whole, tiles⟩ := ih
    have left : uncovered (⟨.unterminatedBracket, offset⟩ :: errors) = uncovered errors := by
      simp [uncovered]
    have width (rest : List Char) : offset + utf8Length ('[' :: rest) = offset + 1 + utf8Length rest := by
      rw [Nat.add_assoc]
      rfl
    refine ⟨⟨.literal '[', ⟨offset, offset + 1⟩⟩ :: inner, '[' :: covered, ?_, ?_, ?_, ?_⟩
    · rw [width, List.cons_append]
    · exact List.forall_mem_cons.mpr ⟨by simp, others⟩
    · rw [left, List.cons_append, ← whole]
    · rw [width]
      exact .next (Nat.lt_succ_self offset) tiles
  | @openQuote offset inside =>
    have width : 0 < utf8Length ('"' :: inside) := Nat.add_pos_left (by decide) _
    refine ⟨[_], '"' :: inside, rfl, by simp, by simp [uncovered], ?_⟩
    exact .next (by omega) .none
  | openEscape => exact ⟨[], [], rfl, by simp, by simp [uncovered], .none⟩

end Recovers

/-- A recovering scan of a code gives what a strict one gives, and without an error just if that succeeds; its
first error is that of the strict scan. The errors stand one behind the other, and none but the last can be
anything else than a bracket never closed, behind which no bracket opens. The tokens cover the code up to its
end, without a backslash that escapes nothing. -/
theorem recover_extends_tokenize (code : String) :
    (∀ found, tokenize code = .ok found ↔ recover code = (found, [])) ∧
    ∃ tokens errors, recover code = (tokens, errors) ∧
      (∀ error, tokenize code = .error error ↔ errors.head? = some error) ∧
      (errors.Pairwise fun earlier later => earlier.position < later.position) ∧
      (∀ error ∈ errors.dropLast, error.fault = .unterminatedBracket) ∧
      (∀ error ∈ errors, error.fault = .unterminatedBracket →
        ∀ located ∈ tokens, ∀ content, located.token = .bracket content →
          located.span.start < error.position) ∧
      ∃ inner covered, tokens = inner ++ [⟨.endOfCode, ⟨code.utf8ByteSize, code.utf8ByteSize⟩⟩] ∧
        (∀ located ∈ inner, located.token ≠ .endOfCode) ∧
        code = covered ++ String.ofList (uncovered errors) ∧
        Tiles 0 (inner.map LocatedToken.span) covered.utf8ByteSize := by
  have strict : tokenize code = _ := scanFrom_eq_recoverFrom 0 (pieces code.toList)
  have recovers : Recovers 0 code.toList (recover code).1 (recover code).2 := recovers_recoverFrom _ 0
  rw [show recoverFrom 0 (pieces code.toList) = recover code from rfl] at strict
  rcases recovered : recover code with ⟨tokens, errors⟩
  rw [recovered] at strict recovers
  refine ⟨fun found => ?_, tokens, errors, rfl, fun error => ?_, recovers.positions_increase, ?_, ?_, ?_⟩
  · rw [strict]
    cases errors <;> simp
  · rw [strict]
    cases errors <;> simp
  · exact fun error member => recovers.fault_of_mem_dropLast member
  · exact fun error reported unclosed located member content bracket =>
      recovers.bracket_before reported unclosed member bracket
  · obtain ⟨inner, covered, whole, others, split, tiles⟩ := recovers.tiles
    rw [Nat.zero_add, utf8Length_toList] at whole
    refine ⟨inner, String.ofList covered, whole, others, ?_, ?_⟩
    · rw [← String.toList_inj]
      simpa using split
    · rwa [Nat.zero_add, ← String.toList_ofList (l := covered), utf8Length_toList] at tiles

/-- A bracket that hides a quote, a quote that hides a bracket, two brackets never closed and a backslash at
the end. -/
theorem recover_extends_tokenize_hidden :
    let code := "[é\"]\"[\"[[0\\"
    tokenize code = .error ⟨.unterminatedBracket, 8⟩ ∧
    ∃ tokens, recover code =
        (tokens, [⟨.unterminatedBracket, 8⟩, ⟨.unterminatedBracket, 9⟩, ⟨.danglingEscape, 11⟩]) ∧
      (∀ located ∈ tokens, ∀ content, located.token = .bracket content → located.span.start < 8) ∧
      ∃ inner covered, tokens = inner ++ [⟨.endOfCode, ⟨12, 12⟩⟩] ∧ code = covered ++ "\\" ∧
        Tiles 0 (inner.map LocatedToken.span) covered.utf8ByteSize := by
  intro code
  obtain ⟨-, tokens, errors, recovered, first, -, -, brackets, inner, covered, ends, -, whole, tiles⟩ :=
    recover_extends_tokenize code
  have found : (recover code).2 =
      [⟨.unterminatedBracket, 8⟩, ⟨.unterminatedBracket, 9⟩, ⟨.danglingEscape, 11⟩] := by decide +kernel
  rw [recovered] at found
  dsimp only at found
  subst found
  exact ⟨(first _).mpr rfl, tokens, recovered, brackets ⟨.unterminatedBracket, 8⟩ List.mem_cons_self rfl,
    inner, covered, ends, whole, tiles⟩

end CellFormat

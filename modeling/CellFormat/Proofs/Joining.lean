import CellFormat.Proofs.Recovery

/-!
Scanning a text that stands behind another one: what was found in it is found again, as many bytes further on as
the other text has.
-/

namespace CellFormat

def Span.shift (bytes : Nat) (span : Span) : Span := ⟨span.start + bytes, span.stop + bytes⟩

def LocatedToken.shift (bytes : Nat) (located : LocatedToken) : LocatedToken :=
  ⟨located.token, located.span.shift bytes⟩

def ScanError.shift (bytes : Nat) (error : ScanError) : ScanError := ⟨error.fault, error.position + bytes⟩

theorem LocatedToken.shift_shift (first second : Nat) (located : LocatedToken) :
    (located.shift second).shift first = located.shift (first + second) := by
  simp only [shift, Span.shift, Nat.add_assoc, Nat.add_comm first]

theorem ScanError.shift_shift (first second : Nat) (error : ScanError) :
    (error.shift second).shift first = error.shift (first + second) := by
  simp only [shift, Nat.add_assoc, Nat.add_comm first]

theorem recoverFrom_add (offset bytes : Nat) (found : List Piece) : recoverFrom (offset + bytes) found =
    ((recoverFrom offset found).1.map (.shift bytes), (recoverFrom offset found).2.map (.shift bytes)) := by
  induction found generalizing offset with
  | nil => rfl
  | cons piece rest ih =>
    have stop : offset + bytes + utf8Length piece.source = offset + utf8Length piece.source + bytes :=
      Nat.add_right_comm ..
    cases reading : piece.reading with
    | ok token => simp only [recoverFrom, reading, stop, ih, List.map_cons, LocatedToken.shift, Span.shift]
    | error fault =>
      simp only [recoverFrom, reading, stop, ih, List.map_cons, List.map_append, ScanError.shift]
      cases fault.repaired? piece.source <;> rfl

/-- Nothing of a text that reads is changed by what stands behind it: what is found in it is the same for all of
that. -/
theorem Reads.recoverFrom_append {text : List Char} {tokens : List Token} (reads : Reads text tokens)
    (offset : Nat) : ∃ found, ∀ more, recoverFrom offset (pieces (text ++ more)) =
      (found ++ (recoverFrom (offset + utf8Length text) (pieces more)).1,
        (recoverFrom (offset + utf8Length text) (pieces more)).2) := by
  induction reads generalizing offset with
  | done => exact ⟨[], fun more => rfl⟩
  | @next c rest source token after tokens read _ ih =>
    obtain ⟨found, behind⟩ := ih (offset + utf8Length source)
    obtain ⟨-, whole⟩ := firstPiece_eq_ok_iff.mp read
    have size : utf8Length (c :: rest) = utf8Length source + utf8Length after := by
      rw [← whole, utf8Length_append]
    refine ⟨⟨token, ⟨offset, offset + utf8Length source⟩⟩ :: found, fun more => ?_⟩
    rw [List.cons_append, pieces_cons, firstPiece_append read more, size, ← Nat.add_assoc]
    simp only [recoverFrom, behind, List.cons_append]

/-- The scan of two texts, of which the first scans without a fault: the tokens of the first without their end,
and behind them whatever is found in the second. -/
theorem recover_append {first : String} {found : List LocatedToken} (scanned : tokenize first = .ok found)
    (second : String) : recover (first ++ second) =
      (found.dropLast ++ (recover second).1.map (.shift first.utf8ByteSize),
        (recover second).2.map (.shift first.utf8ByteSize)) := by
  obtain ⟨tokens, reads, -⟩ := Reads.of_scanFrom scanned
  obtain ⟨opening, further⟩ := reads.recoverFrom_append 0
  have behind (more : String) : recover (first ++ more) =
      (opening ++ (recover more).1.map (.shift first.utf8ByteSize),
        (recover more).2.map (.shift first.utf8ByteSize)) := by
    have joined := further more.toList
    rwa [recoverFrom_add, Cursor.start, ← String.toList_append, utf8Length_toList] at joined
  have nothing : recover "" = ([⟨.endOfCode, ⟨0, 0⟩⟩], []) := by
    simp [recover, Cursor.recover, Cursor.start, pieces_nil, recoverFrom]
  -- With nothing behind it the first text has its own end, which is all that `found` has besides `opening`.
  have alone := behind ""
  rw [String.append_empty, recover_of_tokenize scanned, nothing] at alone
  have ends : found.dropLast = opening := by
    rw [(Prod.mk.inj alone).1]
    exact List.dropLast_concat
  rw [behind second, ends]

/-- The scan of two codes joined by a separator, of which the first scans without a fault. -/
theorem recover_join {first : String} {found : List LocatedToken} (scanned : tokenize first = .ok found)
    (second : String) : recover (first ++ ";" ++ second) =
      (found.dropLast ++ ⟨.sectionSep, (⟨0, 1⟩ : Span).shift first.utf8ByteSize⟩ ::
          (recover second).1.map (.shift (first.utf8ByteSize + 1)),
        (recover second).2.map (.shift (first.utf8ByteSize + 1))) := by
  have separator : tokenize ";" = .ok [⟨.sectionSep, ⟨0, 1⟩⟩, ⟨.endOfCode, ⟨1, 1⟩⟩] := by decide +kernel
  have opened : recover (";" ++ second) =
      (⟨.sectionSep, ⟨0, 1⟩⟩ :: (recover second).1.map (.shift 1), (recover second).2.map (.shift 1)) :=
    recover_append separator second
  rw [String.append_assoc, recover_append scanned, opened]
  simp only [List.map_cons, List.map_map, Function.comp_def, LocatedToken.shift_shift, ScanError.shift_shift]
  rfl

theorem tokenize_append_eq {first : String} {found : List LocatedToken} (scanned : tokenize first = .ok found)
    (second : String) : tokenize (first ++ second) =
      match tokenize second with
      | .error error => .error (error.shift first.utf8ByteSize)
      | .ok others => .ok (found.dropLast ++ others.map (.shift first.utf8ByteSize)) := by
  rw [tokenize_eq_recover (first ++ second), recover_append scanned, tokenize_eq_recover second]
  cases (recover second).2 <;> rfl

/-- Behind a text that scans without a fault another one scans just as it does alone: its tokens follow those of the
first without their end, or its fault is the fault, with every place moved on by the bytes of the first. -/
theorem tokenize_append {first : String} {found : List LocatedToken} (scanned : tokenize first = .ok found) :
    ∃ tokens, found = tokens ++ [⟨.endOfCode, ⟨first.utf8ByteSize, first.utf8ByteSize⟩⟩] ∧
      (∀ located ∈ tokens, located.token ≠ .endOfCode) ∧
      ∀ second : String,
        (∀ joined, tokenize (first ++ second) = .ok joined ↔
          ∃ others, tokenize second = .ok others ∧ joined = tokens ++ others.map (.shift first.utf8ByteSize)) ∧
        ∀ error, tokenize (first ++ second) = .error error ↔
          ∃ alone, tokenize second = .error alone ∧ error = alone.shift first.utf8ByteSize := by
  have covers : Covers 0 first.toList found := covers_of_scanFrom scanned
  obtain ⟨tokens, rfl, others⟩ := covers.ends
  rw [utf8Length_toList, Nat.zero_add] at scanned ⊢
  refine ⟨tokens, rfl, others, fun second => ?_⟩
  rw [tokenize_append_eq scanned second, List.dropLast_concat]
  cases tokenize second <;> simp [eq_comm]

/-- Behind a bracket with a quote in it and an escaped quote: a text that scans, and one with a quote that is never
closed, which no bracket or backslash before it hides. -/
theorem tokenize_append_quotes :
    let first := "é[\"]\\\""
    let tokens : List LocatedToken := [⟨.literal 'é', ⟨0, 2⟩⟩, ⟨.bracket "\"", ⟨2, 5⟩⟩, ⟨.escaped '"', ⟨5, 7⟩⟩]
    tokenize first = .ok (tokens ++ [⟨.endOfCode, ⟨7, 7⟩⟩]) ∧
    tokenize (first ++ "]\"€\"") =
      .ok (tokens ++ [⟨.literal ']', ⟨7, 8⟩⟩, ⟨.quoted "€", ⟨8, 13⟩⟩, ⟨.endOfCode, ⟨13, 13⟩⟩]) ∧
    tokenize (first ++ "€\"]") = .error ⟨.unterminatedQuote, 10⟩ := by
  intro first tokens
  have scanned : tokenize first = .ok (tokens ++ [⟨.endOfCode, ⟨7, 7⟩⟩]) := by decide +kernel
  have quoted : tokenize "]\"€\"" = .ok [⟨.literal ']', ⟨0, 1⟩⟩, ⟨.quoted "€", ⟨1, 6⟩⟩, ⟨.endOfCode, ⟨6, 6⟩⟩] := by
    decide +kernel
  have unclosed : tokenize "€\"]" = .error ⟨.unterminatedQuote, 3⟩ := by decide +kernel
  obtain ⟨inner, whole, -, further⟩ := tokenize_append scanned
  obtain rfl : tokens = inner := List.append_cancel_right whole
  refine ⟨scanned, ((further _).1 _).mpr ⟨_, quoted, rfl⟩, ((further _).2 _).mpr ⟨_, unclosed, rfl⟩⟩

end CellFormat

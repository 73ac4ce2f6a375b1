import CellFormat.Proofs.Recovery

/-!
A scan taken token by token. Whatever has been met on the way, the cursor stands between two characters of the code
and before just what it has not taken yet, so that a recovering scan can go on from there, and each call before the
end of the code brings it on.
-/

namespace CellFormat

/-- The token that a recovering scan puts in place of a fault of the code: a quote with the raw rest of the code, a
bracket that stands for itself, nothing for a backslash. -/
def ScanError.repair? (code : String) (error : ScanError) : Option LocatedToken :=
  match error.fault with
  | .unterminatedQuote =>
    some ⟨.quoted (Span.slice ⟨error.position + 1, code.utf8ByteSize⟩ code), ⟨error.position, code.utf8ByteSize⟩⟩
  | .unterminatedBracket => some ⟨.literal '[', ⟨error.position, error.position + 1⟩⟩
  | .danglingEscape => none

/-- The tokens that a call adds to a recovering scan of the code. -/
def addedTokens (code : String) : Except ScanError LocatedToken → List LocatedToken
  | .ok located => [located]
  | .error error => (error.repair? code).toList

/-- The errors that a call adds to a recovering scan. -/
def addedErrors : Except ScanError LocatedToken → List ScanError
  | .ok _ => []
  | .error error => [error]

/-- A call that finds the end of the code. -/
def IsEnd (outcome : Except ScanError LocatedToken) : Prop :=
  outcome.map LocatedToken.token = .ok .endOfCode

/-- What a recovering scan makes of a faulty piece is what it puts in place of the fault in the whole code. -/
theorem repair?_eq {code : String} {before after source : List Char} {c : Char} {rest : List Char} {fault : Fault}
    (whole : code.toList = before ++ c :: rest) (read : firstPiece c rest = (⟨source, .error fault⟩, after)) :
    ScanError.repair? code ⟨fault, utf8Length before⟩ =
      (fault.repaired? source).map fun token => ⟨token, ⟨utf8Length before, utf8Length before + utf8Length source⟩⟩ := by
  have opens := Fault.opens_of_firstPiece read
  have taken := Fault.source_of_firstPiece read
  cases fault with
  | unterminatedBracket =>
    obtain ⟨rfl, -⟩ := taken
    obtain ⟨rfl, -⟩ := opens
    rfl
  | danglingEscape => rfl
  | unterminatedQuote =>
    obtain ⟨rfl, -⟩ := taken
    obtain ⟨rfl, -⟩ := opens
    have behind : code.toList = before ++ ['"'] ++ rest ++ [] := by simp [whole]
    have opening : utf8Length (before ++ ['"']) = utf8Length before + 1 := utf8Length_append ..
    have stop : code.utf8ByteSize = utf8Length before + utf8Length ('"' :: rest) := by
      rw [← utf8Length_toList, whole, utf8Length_append]
    have raw : Span.slice ⟨utf8Length before + 1, code.utf8ByteSize⟩ code = String.ofList rest := by
      have slice := Span.slice_eq behind
      rwa [opening, Nat.add_assoc, show 1 + utf8Length rest = utf8Length ('"' :: rest) from rfl, ← stop] at slice
    rw [ScanError.repair?, raw, stop]
    rfl

namespace Cursor

variable {cursor : Cursor} {code : String} {c : Char} {rest source after : List Char}

theorem next_of_token {token : Token} (more : cursor.rest = c :: rest)
    (read : firstPiece c rest = (⟨source, .ok token⟩, after)) :
    cursor.next = (.ok ⟨token, ⟨cursor.offset, cursor.offset + utf8Length source⟩⟩,
      ⟨cursor.offset + utf8Length source, after⟩) := by
  simp only [next, more, read]

theorem next_of_fault {fault : Fault} (more : cursor.rest = c :: rest)
    (read : firstPiece c rest = (⟨source, .error fault⟩, after)) :
    cursor.next = (.error ⟨fault, cursor.offset⟩, ⟨cursor.offset + utf8Length source, after⟩) := by
  simp only [next, more, read]

/-- Behind the first piece, whether a token or a fault. -/
theorem snd_next (more : cursor.rest = c :: rest) :
    cursor.next.2 = ⟨cursor.offset + utf8Length (firstPiece c rest).1.source, (firstPiece c rest).2⟩ := by
  simp only [next, more]

theorem next_of_ended (ended : cursor.rest = []) :
    cursor.next = (.ok ⟨.endOfCode, ⟨cursor.offset, cursor.offset⟩⟩, cursor) := by
  simp only [next, ended]

theorem isEnd_next_iff : IsEnd cursor.next.1 ↔ cursor.rest = [] := by
  cases more : cursor.rest with
  | nil => simp [IsEnd, next_of_ended more, Except.map]
  | cons c rest =>
    rcases read : firstPiece c rest with ⟨⟨source, reading⟩, after⟩
    cases reading with
    | error fault => simp [IsEnd, next_of_fault more read, Except.map]
    | ok token =>
      have form := (firstPiece_eq_ok_iff.mp read).1
      simpa [IsEnd, next_of_token more read, Except.map] using form.ne_endOfCode

/-- A call before the end takes at least a character. -/
theorem next_advances (more : cursor.rest ≠ []) :
    cursor.offset < cursor.next.2.offset ∧ cursor.next.2.rest.length < cursor.rest.length := by
  obtain ⟨c, rest, more⟩ := List.exists_cons_of_ne_nil more
  rw [snd_next more, more]
  exact ⟨Nat.lt_add_of_pos_right (utf8Length_pos (firstPiece_source_ne_nil c rest)), firstPiece_rest_length c rest⟩

theorem take_succ (count : Nat) :
    cursor.take (count + 1) = (cursor.next.1 :: (cursor.next.2.take count).1, (cursor.next.2.take count).2) := rfl

/-- At the end of the code each call finds it again. -/
theorem take_of_ended (ended : cursor.rest = []) (count : Nat) :
    cursor.take count = (List.replicate count (.ok ⟨.endOfCode, ⟨cursor.offset, cursor.offset⟩⟩), cursor) := by
  induction count with
  | zero => rfl
  | succ count ih => rw [take_succ, next_of_ended ended, ih, List.replicate_succ]

theorem take_add (first second : Nat) :
    cursor.take (first + second) =
      ((cursor.take first).1 ++ ((cursor.take first).2.take second).1, ((cursor.take first).2.take second).2) := by
  induction first generalizing cursor with
  | zero => rw [Nat.zero_add, take, List.nil_append]
  | succ first ih => rw [Nat.succ_add, take_succ, ih, take_succ, List.cons_append]

theorem exists_take_ended (cursor : Cursor) : ∃ count ≤ cursor.rest.length,
    (∀ outcome ∈ (cursor.take count).1, ¬IsEnd outcome) ∧ (cursor.take count).2.rest = [] := by
  by_cases ended : cursor.rest = []
  · exact ⟨0, Nat.zero_le _, by simp [take], ended⟩
  · have shorter := (next_advances ended).2
    obtain ⟨count, within, unended, last⟩ := exists_take_ended cursor.next.2
    refine ⟨count + 1, by omega, ?_, last⟩
    exact List.forall_mem_cons.mpr ⟨mt isEnd_next_iff.mp ended, unended⟩
termination_by cursor.rest.length

/-- The cursor stands between two characters of the code, with the code from there on as its rest. -/
def IsIn (cursor : Cursor) (code : String) : Prop :=
  ∃ before, code.toList = before ++ cursor.rest ∧ cursor.offset = utf8Length before

namespace IsIn

theorem of_start (code : String) : (start code).IsIn code := ⟨[], rfl, rfl⟩

theorem next (inside : cursor.IsIn code) : cursor.next.2.IsIn code := by
  cases more : cursor.rest with
  | nil => rwa [next_of_ended more]
  | cons c rest =>
    obtain ⟨before, whole, offset⟩ := inside
    rw [snd_next more]
    refine ⟨before ++ (firstPiece c rest).1.source, ?_, ?_⟩
    · rw [List.append_assoc, firstPiece_source_append, ← more, whole]
    · rw [utf8Length_append, offset]

theorem take (inside : cursor.IsIn code) (count : Nat) : (cursor.take count).2.IsIn code := by
  induction count generalizing cursor with
  | zero => exact inside
  | succ count ih => exact ih inside.next

theorem bounds (inside : cursor.IsIn code) :
    cursor.offset ≤ code.utf8ByteSize ∧ String.Pos.Raw.IsValid code ⟨cursor.offset⟩ := by
  obtain ⟨before, whole, offset⟩ := inside
  rw [offset]
  refine ⟨?_, isValid_of_toList_eq whole⟩
  rw [← utf8Length_toList, whole, utf8Length_append]
  exact Nat.le_add_right ..

theorem offset_eq (inside : cursor.IsIn code) (ended : cursor.rest = []) : cursor.offset = code.utf8ByteSize := by
  obtain ⟨before, whole, offset⟩ := inside
  rw [offset, ← utf8Length_toList, whole, ended, List.append_nil]

/-- A recovering scan from a cursor on begins with what the next call adds to it. -/
theorem recover_next (inside : cursor.IsIn code) (more : cursor.rest ≠ []) :
    cursor.recover = (addedTokens code cursor.next.1 ++ cursor.next.2.recover.1,
      addedErrors cursor.next.1 ++ cursor.next.2.recover.2) := by
  obtain ⟨c, rest, more⟩ := List.exists_cons_of_ne_nil more
  obtain ⟨before, whole, offset⟩ := inside
  rw [more] at whole
  rcases read : firstPiece c rest with ⟨⟨source, reading⟩, after⟩
  cases reading with
  | ok token =>
    rw [next_of_token more read, recover, more, pieces_cons, read]
    rfl
  | error fault =>
    have repaired := repair?_eq whole read
    rw [← offset] at repaired
    rw [next_of_fault more read, recover, more, pieces_cons, read, addedTokens, repaired]
    rfl

theorem recover_take (inside : cursor.IsIn code) {count : Nat}
    (unended : ∀ outcome ∈ (cursor.take count).1, ¬IsEnd outcome) :
    cursor.recover =
      ((cursor.take count).1.flatMap (addedTokens code) ++ (cursor.take count).2.recover.1,
        (cursor.take count).1.flatMap addedErrors ++ (cursor.take count).2.recover.2) := by
  induction count generalizing cursor with
  | zero => rfl
  | succ count ih =>
    obtain ⟨first, later⟩ := List.forall_mem_cons.mp unended
    rw [inside.recover_next (mt isEnd_next_iff.mpr first), ih inside.next later]
    simp only [take_succ, List.flatMap_cons, List.append_assoc]

end IsIn

end Cursor

/-- A scan can be left to the recovering one after any number of calls before the end of the code: what these have
found, with what takes the place of each fault, and what is found from there on are together what is found from the
start. Each call before the end brings the cursor on to a place between two characters of the code, so that the end
comes after at most as many calls as the code has characters; and once it has come, every further call finds it. -/
theorem recover_resumes (code : String) :
    let calls := (Cursor.start code).take
    (∀ count, (∀ outcome ∈ (calls count).1, ¬IsEnd outcome) →
      recover code = ((calls count).1.flatMap (addedTokens code) ++ (calls count).2.recover.1,
        (calls count).1.flatMap addedErrors ++ (calls count).2.recover.2)) ∧
    (∀ count, ¬IsEnd (calls count).2.next.1 →
      (calls count).2.offset < (calls count).2.next.2.offset ∧
      (calls count).2.next.2.offset ≤ code.utf8ByteSize ∧
      String.Pos.Raw.IsValid code ⟨(calls count).2.next.2.offset⟩) ∧
    ∃ count ≤ code.length, (∀ outcome ∈ (calls count).1, ¬IsEnd outcome) ∧
      ∀ more, (calls (count + more)).1 = (calls count).1 ++
        List.replicate more (.ok ⟨.endOfCode, ⟨code.utf8ByteSize, code.utf8ByteSize⟩⟩) := by
  intro calls
  have inside := Cursor.IsIn.of_start code
  refine ⟨fun count unended => inside.recover_take unended, fun count unended => ?_, ?_⟩
  · have forward := Cursor.next_advances (mt Cursor.isEnd_next_iff.mpr unended)
    exact ⟨forward.1, (inside.take count).next.bounds⟩
  · obtain ⟨count, within, unended, ended⟩ := Cursor.exists_take_ended (Cursor.start code)
    have characters : (Cursor.start code).rest.length = code.length := String.length_toList
    refine ⟨count, characters ▸ within, unended, fun more => ?_⟩
    have last := (inside.take count).offset_eq ended
    simp only [calls]
    rw [Cursor.take_add, Cursor.take_of_ended ended, last]

/-- Left after a bracket, an escape and a bracket never closed, with a quote never closed still to come. -/
theorem recover_resumes_faulty :
    let code := "[é]\\;[\"𝄞"
    let calls := (Cursor.start code).take
    (∀ outcome ∈ (calls 3).1, ¬IsEnd outcome) ∧
    recover code =
      ([⟨.bracket "é", ⟨0, 4⟩⟩, ⟨.escaped ';', ⟨4, 6⟩⟩, ⟨.literal '[', ⟨6, 7⟩⟩] ++ (calls 3).2.recover.1,
        [⟨.unterminatedBracket, 6⟩] ++ (calls 3).2.recover.2) ∧
    (calls 3).2.next.1 = .error ⟨.unterminatedQuote, 7⟩ ∧ (calls 3).2.offset < (calls 3).2.next.2.offset ∧
    String.Pos.Raw.IsValid code ⟨(calls 3).2.next.2.offset⟩ := by
  intro code calls
  obtain ⟨resumed, advances, -⟩ := recover_resumes code
  have outcomes : (calls 3).1 = [.ok ⟨.bracket "é", ⟨0, 4⟩⟩, .ok ⟨.escaped ';', ⟨4, 6⟩⟩,
      .error ⟨.unterminatedBracket, 6⟩] := by decide +kernel
  have fault : (calls 3).2.next.1 = .error ⟨.unterminatedQuote, 7⟩ := by decide +kernel
  have unended : ∀ outcome ∈ (calls 3).1, ¬IsEnd outcome := by
    rw [outcomes]
    simp [IsEnd, Except.map]
  have failed : ¬IsEnd (calls 3).2.next.1 := by
    rw [fault]
    simp [IsEnd, Except.map]
  have found := resumed 3 unended
  rw [show ((Cursor.start code).take 3).1 = _ from outcomes] at found
  obtain ⟨forward, -, valid⟩ := advances 3 failed
  exact ⟨unended, found, fault, forward, valid⟩

end CellFormat

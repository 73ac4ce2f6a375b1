import CellFormat.Proofs.Validation

/-!
Every issue of a code has a span over just the text that it is about, whatever else is wrong with the code. What a
recovering scan finds in its place is for a character or a bracket what is written there, so a run of them stands
over what they are written as, without a gap.
-/

namespace CellFormat

/-- The span covers a part of the code that reads as the given text. -/
def Span.IsOver (span : Span) (code : String) (text : List Char) : Prop :=
  ∃ before after, code.toList = before ++ text ++ after ∧
    span = ⟨utf8Length before, utf8Length before + utf8Length text⟩

namespace Span.IsOver

variable {span : Span} {code : String} {text : List Char}

theorem slice_eq (stands : span.IsOver code text) : span.slice code = String.ofList text := by
  obtain ⟨before, after, whole, rfl⟩ := stands
  exact Span.slice_eq whole

theorem isValid (stands : span.IsOver code text) :
    String.Pos.Raw.IsValid code ⟨span.start⟩ ∧ String.Pos.Raw.IsValid code ⟨span.stop⟩ := by
  obtain ⟨before, after, whole, rfl⟩ := stands
  have stop := isValid_of_toList_eq whole
  rw [utf8Length_append] at stop
  rw [List.append_assoc] at whole
  exact ⟨isValid_of_toList_eq whole, stop⟩

theorem bounds (stands : span.IsOver code text) (nonempty : text ≠ []) :
    span.start < span.stop ∧ span.stop ≤ code.utf8ByteSize := by
  obtain ⟨before, after, whole, rfl⟩ := stands
  have width := utf8Length_pos nonempty
  have size : code.utf8ByteSize = utf8Length before + utf8Length text + utf8Length after := by
    rw [← utf8Length_toList, whole, utf8Length_append, utf8Length_append]
  constructor <;> dsimp only <;> omega

end Span.IsOver

/-- A token that has one form only, that in which it is written. -/
def Token.IsVerbatim : Token → Prop
  | literal _ | bracket _ => True
  | escaped _ | quoted _ | sectionSep | endOfCode => False

theorem Token.Form.eq_written {token : Token} {source : List Char} (form : token.Form source)
    (verbatim : token.IsVerbatim) : source = token.written := by
  cases form with
  | literal => rfl
  | bracket => simp [written]
  | escaped | quoted | sectionSep => exact verbatim.elim

theorem Token.IsVerbatim.written_ne_nil {token : Token} (verbatim : token.IsVerbatim) : token.written ≠ [] := by
  cases token with
  | literal | bracket => simp [written]
  | escaped | quoted | sectionSep | endOfCode => exact verbatim.elim

namespace Tiles

variable {start finish : Nat} {span : Span} {spans : List Span}

theorem start_eq (tiles : Tiles start (span :: spans) finish) : span.start = start := by
  cases tiles
  rfl

theorem stop_eq (tiles : Tiles start (spans ++ [span]) finish) : span.stop = finish := by
  induction spans generalizing start with
  | nil =>
    cases tiles with
    | next _ later =>
      cases later
      rfl
  | cons _ _ ih =>
    cases tiles with
    | next _ later => exact ih later

end Tiles

namespace Recovers

variable {offset : Nat} {text : List Char} {found later : List LocatedToken} {errors : List ScanError}

theorem exists_tail {located : LocatedToken} (recovers : Recovers offset text (located :: later) errors)
    (nonempty : later ≠ []) : ∃ opening rest left, text = opening ++ rest ∧
      Recovers (offset + utf8Length opening) rest later left := by
  cases recovers with
  | next _ further => exact ⟨_, _, _, rfl, further⟩
  | openBracket _ further => exact ⟨['['], _, _, rfl, further⟩
  | openQuote => exact ⟨_, [], [], (List.append_nil _).symm, .finish⟩
  | finish | openEscape => exact absurd rfl nonempty

/-- What is found from some token on is found in the text from some place on. -/
theorem exists_drop (recovers : Recovers offset text (found ++ later) errors) (nonempty : later ≠ []) :
    ∃ opening rest left, text = opening ++ rest ∧
      Recovers (offset + utf8Length opening) rest later left := by
  induction found generalizing offset text errors with
  | nil => exact ⟨[], text, errors, rfl, recovers⟩
  | cons located found ih =>
    obtain ⟨first, behind, _, rfl, further⟩ := recovers.exists_tail (by simp [nonempty])
    obtain ⟨second, rest, left, rfl, further⟩ := ih further
    refine ⟨first ++ second, rest, left, (List.append_assoc ..).symm, ?_⟩
    rwa [utf8Length_append, ← Nat.add_assoc]

theorem verbatim_cons {located : LocatedToken} (recovers : Recovers offset text (located :: later) errors)
    (verbatim : located.token.IsVerbatim) : ∃ rest left, text = located.token.written ++ rest ∧
      located.span = ⟨offset, offset + utf8Length located.token.written⟩ ∧
      Recovers (offset + utf8Length located.token.written) rest later left := by
  cases recovers with
  | next form further =>
    obtain rfl := form.eq_written verbatim
    exact ⟨_, _, rfl, rfl, further⟩
  | openBracket _ further => exact ⟨_, _, rfl, rfl, further⟩
  | finish | openQuote | openEscape => exact verbatim.elim

/-- A run of characters and brackets is found end to end over what it is written as. -/
theorem verbatim_append {run : List LocatedToken} (recovers : Recovers offset text (run ++ later) errors)
    (verbatim : ∀ located ∈ run, located.token.IsVerbatim) :
    ∃ rest, text = run.flatMap (fun located => located.token.written) ++ rest ∧
      Tiles offset (run.map LocatedToken.span)
        (offset + utf8Length (run.flatMap fun located => located.token.written)) := by
  induction run generalizing offset text errors with
  | nil => exact ⟨text, rfl, .none⟩
  | cons located run ih =>
    obtain ⟨first, others⟩ := List.forall_mem_cons.mp verbatim
    obtain ⟨behind, _, rfl, span, further⟩ := recovers.verbatim_cons first
    obtain ⟨rest, rfl, tiles⟩ := ih further others
    refine ⟨rest, (List.append_assoc ..).symm, ?_⟩
    rw [List.map_cons, span, List.flatMap_cons, utf8Length_append, ← Nat.add_assoc]
    exact .next (Nat.lt_add_of_pos_right (utf8Length_pos first.written_ne_nil)) tiles

end Recovers

/-- A run of characters and brackets that a recovering scan finds stands from its first token's start to its last
one's stop over what it is written as. -/
theorem isOver_of_run {code : String} {before after : List LocatedToken} {first last : LocatedToken}
    {run : List LocatedToken} (found : (recover code).1 = before ++ run ++ after)
    (starts : run.head? = some first) (ends : run.getLast? = some last)
    (verbatim : ∀ located ∈ run, located.token.IsVerbatim) :
    Span.IsOver ⟨first.span.start, last.span.stop⟩ code (run.flatMap fun located => located.token.written) := by
  obtain ⟨tail, opens⟩ := List.head?_eq_some_iff.mp starts
  obtain ⟨front, closes⟩ := List.getLast?_eq_some_iff.mp ends
  have fromFirst : run.map LocatedToken.span = first.span :: tail.map LocatedToken.span := by rw [opens, List.map_cons]
  have toLast : run.map LocatedToken.span = front.map LocatedToken.span ++ [last.span] := by
    rw [closes, List.map_append, List.map_singleton]
  have recovers : Recovers 0 code.toList (before ++ (run ++ after)) (recover code).2 := by
    rw [← List.append_assoc, ← found]
    exact recovers_recoverFrom code.toList 0
  obtain ⟨left, _, _, whole, further⟩ := recovers.exists_drop (by simp [opens])
  obtain ⟨right, rfl, tiles⟩ := further.verbatim_append verbatim
  refine ⟨left, right, by rw [whole, List.append_assoc], ?_⟩
  have start : first.span.start = 0 + utf8Length left := by
    rw [fromFirst] at tiles
    exact tiles.start_eq
  have stop : last.span.stop =
      0 + utf8Length left + utf8Length (run.flatMap fun located => located.token.written) := by
    rw [toLast] at tiles
    exact tiles.stop_eq
  rw [start, stop, Nat.zero_add]

theorem exists_of_arithmetic? {found : List LocatedToken} {issue : Issue} (some : arithmetic? found = some issue) :
    ∃ before after digit first star two last,
      found = before ++ [⟨.literal digit, first⟩, ⟨.literal '*', star⟩, ⟨.literal '2', two⟩, ⟨.literal '4', last⟩] ++
        after ∧
      digit.isDigit = true ∧ issue = ⟨.arithmetic, ⟨first.start, last.stop⟩⟩ := by
  induction found with
  | nil => cases some
  | cons located rest ih =>
    by_cases multiplied : located.token.IsDigit ∧
        [.literal '*', .literal '2', .literal '4'] <+: rest.map LocatedToken.token
    · obtain ⟨isDigit, follows⟩ := multiplied
      obtain ⟨star, two, last, after, rfl⟩ := exists_of_multiplied_prefix follows
      rw [arithmetic?_of_multiplied after isDigit] at some
      obtain ⟨token, first⟩ := located
      obtain ⟨digit, rfl, isDigit⟩ := Token.exists_of_isDigit isDigit
      cases some
      exact ⟨[], after, digit, first, star, two, last, rfl, isDigit, rfl⟩
    · rw [arithmetic?_of_not_multiplied multiplied] at some
      obtain ⟨before, after, digit, first, star, two, last, rfl, isDigit, same⟩ := ih some
      exact ⟨located :: before, after, digit, first, star, two, last, rfl, isDigit, same⟩

/-- Every fault that a recovering scan notes opens the text from its place on. -/
theorem exists_opens_of_mem {text : List Char} {offset : Nat} {error : ScanError}
    (member : error ∈ (recoverFrom offset (pieces text)).2) :
    ∃ before c after, text = before ++ c :: after ∧ error.position = offset + utf8Length before ∧
      error.fault.Opens c after := by
  -- `Recovers` does not keep why a quote is open, so the induction is on the pieces.
  fun_induction pieces text generalizing offset with
  | case1 => cases member
  | case2 c rest ih =>
    rcases read : firstPiece c rest with ⟨⟨source, reading⟩, after⟩
    have whole := firstPiece_source_append c rest
    rw [read] at whole member ih
    have later (inside : error ∈ (recoverFrom (offset + utf8Length source) (pieces after)).2) :
        ∃ before next behind, c :: rest = before ++ next :: behind ∧
          error.position = offset + utf8Length before ∧ error.fault.Opens next behind := by
      obtain ⟨before, next, behind, same, position, opens⟩ := ih inside
      refine ⟨source ++ before, next, behind, ?_, ?_, opens⟩
      · rw [← whole, List.append_assoc, ← same]
      · rw [position, utf8Length_append, Nat.add_assoc]
    cases reading with
    | ok token => exact later member
    | error fault =>
      rcases List.mem_cons.mp member with rfl | inside
      · exact ⟨[], c, rest, rfl, rfl, Fault.opens_of_firstPiece read⟩
      · exact later inside

/-- The text that an issue of a kind is about. A fault is about all the rest of the code, from where it opens. -/
def IssueKind.IsAbout : IssueKind → List Char → Prop
  | unknownTag content, text => text = '[' :: content.toList ++ [']']
  | concatenation, text => text = ['&']
  | arithmetic, text => ∃ digit : Char, digit.isDigit = true ∧ text = [digit, '*', '2', '4']
  | malformed error, text => ∃ c rest, text = c :: rest ∧ error.fault.Opens c rest

theorem IssueKind.IsAbout.ne_nil {kind : IssueKind} {text : List Char} (about : kind.IsAbout text) : text ≠ [] := by
  rintro rfl
  cases kind <;> simp [IsAbout] at about

theorem isOver_of_mem {code : String} {located : LocatedToken} (found : located ∈ (recover code).1)
    (verbatim : located.token.IsVerbatim) : located.span.IsOver code located.token.written := by
  obtain ⟨before, after, whole⟩ := List.append_of_mem found
  have alone : (recover code).1 = before ++ [located] ++ after := by simp [whole]
  have stands := isOver_of_run alone rfl rfl (by simpa using verbatim)
  rwa [List.flatMap_singleton] at stands

theorem isOver_of_opens {code : String} {before after : List Char} {c : Char}
    (whole : code.toList = before ++ c :: after) :
    Span.IsOver ⟨utf8Length before, code.utf8ByteSize⟩ code (c :: after) := by
  refine ⟨before, [], by rw [whole, List.append_nil], ?_⟩
  rw [← utf8Length_toList, whole, utf8Length_append]

theorem exists_isOver_of_mem {code : String} {issue : Issue} (member : issue ∈ validate code) :
    ∃ text, issue.span.IsOver code text ∧ issue.kind.IsAbout text ∧
      ∀ error, issue.kind = .malformed error → issue.span = ⟨error.position, code.utf8ByteSize⟩ := by
  simp only [validate, List.mem_append, List.mem_map, List.mem_filterMap, Option.mem_toList, or_assoc] at member
  rcases member with ⟨error, reported, rfl⟩ | ⟨⟨token, span⟩, found, unknown⟩ | ampersand | multiplied
  · have reported : error ∈ (recoverFrom 0 (pieces code.toList)).2 := reported
    obtain ⟨before, c, after, whole, position, opens⟩ := exists_opens_of_mem reported
    rw [Nat.zero_add] at position
    refine ⟨c :: after, ?_, ⟨c, after, rfl, opens⟩, ?_⟩
    · rw [position]
      exact isOver_of_opens whole
    · rintro _ ⟨⟩
      rfl
  · cases token with
    | bracket content =>
      simp only [unknownTag?] at unknown
      split at unknown <;> cases unknown
      exact ⟨_, isOver_of_mem found trivial, rfl, by simp⟩
    | literal | escaped | quoted | sectionSep | endOfCode => cases unknown
  · obtain ⟨⟨token, span⟩, first, rfl⟩ := Option.map_eq_some_iff.mp ampersand
    have spelled := List.find?_some first
    obtain rfl : token = .literal '&' := of_decide_eq_true spelled
    exact ⟨['&'], isOver_of_mem (List.mem_of_find?_eq_some first) trivial, rfl, by simp⟩
  · obtain ⟨before, after, digit, first, star, two, last, whole, isDigit, rfl⟩ := exists_of_arithmetic? multiplied
    exact ⟨[digit, '*', '2', '4'], isOver_of_run whole rfl rfl (by simp [Token.IsVerbatim]), ⟨digit, isDigit, rfl⟩,
      by simp⟩

/-- Each issue of a code has a span that is not empty, within the code and between characters, over just the text
that it is about: the tag in its brackets, the ampersand, the digit with what it is multiplied by, or for a fault the
rest of the code from the quote, the bracket or the backslash on that opens it. -/
theorem validate_spans {code : String} {issue : Issue} (member : issue ∈ validate code) :
    issue.span.start < issue.span.stop ∧ issue.span.stop ≤ code.utf8ByteSize ∧
    String.Pos.Raw.IsValid code ⟨issue.span.start⟩ ∧ String.Pos.Raw.IsValid code ⟨issue.span.stop⟩ ∧
    issue.kind.IsAbout (issue.span.slice code).toList ∧
    ∀ error, issue.kind = .malformed error → issue.span = ⟨error.position, code.utf8ByteSize⟩ := by
  obtain ⟨text, stands, about, suffix⟩ := exists_isOver_of_mem member
  obtain ⟨nonempty, within⟩ := stands.bounds about.ne_nil
  rw [stands.slice_eq, String.toList_ofList]
  exact ⟨nonempty, within, stands.isValid.1, stands.isValid.2, about, suffix⟩

/-- An ampersand and a multiplication behind characters of several bytes, the multiplication before a bracket that
is never closed; the text from that bracket on is spoilt up to the end, with a quote that is never closed in it. -/
theorem validate_spans_unclosed :
    let code := "é&[Tén]€7*24[\"𝄞"
    let arithmetic : Issue := ⟨.arithmetic, ⟨12, 16⟩⟩
    let quote : Issue := ⟨.malformed ⟨.unterminatedQuote, 17⟩, ⟨17, 22⟩⟩
    arithmetic ∈ validate code ∧ quote ∈ validate code ∧
    (∃ digit : Char, digit.isDigit = true ∧ (arithmetic.span.slice code).toList = [digit, '*', '2', '4']) ∧
    quote.span.stop = code.utf8ByteSize ∧
    ∃ c rest, (quote.span.slice code).toList = c :: rest ∧ Fault.Opens .unterminatedQuote c rest := by
  intro code arithmetic quote
  have advice : validate code = [⟨.malformed ⟨.unterminatedBracket, 16⟩, ⟨16, 22⟩⟩, quote,
      ⟨.unknownTag "Tén", ⟨3, 9⟩⟩, ⟨.concatenation, ⟨2, 3⟩⟩, arithmetic] := by decide +kernel
  have multiplied : arithmetic ∈ validate code := by simp [advice]
  have unclosed : quote ∈ validate code := by simp [advice]
  obtain ⟨-, -, -, -, digits, -⟩ := validate_spans multiplied
  obtain ⟨-, -, -, -, opens, suffix⟩ := validate_spans unclosed
  exact ⟨multiplied, unclosed, digits, congrArg Span.stop (suffix _ rfl), opens⟩

end CellFormat

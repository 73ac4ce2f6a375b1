import CellFormat.Code.Issue
import CellFormat.Proofs.Grammar
import CellFormat.Proofs.Recovery

/-!
The advice about a code follows from a reading of the code, whoever reads it: just the tags without a meaning are
reported, each as often as it stands there, and each of the two operators once, if it stands outside of quotes.
-/

namespace CellFormat

/-- A text put together from a form of each token, one after another. -/
def Forms (tokens : List Token) (text : List Char) : Prop :=
  ∃ sources, List.Forall₂ Token.Form tokens sources ∧ text = sources.flatten

/-- A text scans to the tokens that it is put together from, and to no others. -/
theorem forms_iff_reads {tokens : List Token} {text : List Char} : Forms tokens text ↔ Reads text tokens := by
  constructor
  · rintro ⟨sources, forms, rfl⟩
    induction forms with
    | nil => exact .done
    | cons form _ ih => exact form.reads.append ih
  · intro reads
    induction reads with
    | done => exact ⟨[], .nil, rfl⟩
    | next read _ ih =>
      obtain ⟨sources, forms, rfl⟩ := ih
      obtain ⟨form, whole⟩ := firstPiece_eq_ok_iff.mp read
      exact ⟨_, .cons form forms, whole.symm⟩

def Token.content? : Token → Option String
  | bracket content => some content
  | literal _ | escaped _ | quoted _ | sectionSep | endOfCode => none

/-- What the brackets without a meaning hold, in their order. -/
def unknownContents (tokens : List Token) : List String :=
  (tokens.filterMap Token.content?).filter fun content => !(Tag.ofContent content).isKnown

def Token.IsDigit : Token → Prop
  | literal c => c.isDigit = true
  | escaped _ | quoted _ | bracket _ | sectionSep | endOfCode => False

instance : DecidablePred Token.IsDigit
  | .literal _ => inferInstanceAs (Decidable (_ = true))
  | .escaped _ | .quoted _ | .bracket _ | .sectionSep | .endOfCode => .isFalse id

theorem Token.exists_of_isDigit {token : Token} (isDigit : token.IsDigit) :
    ∃ c, token = .literal c ∧ c.isDigit = true := by
  cases token with
  | literal c => exact ⟨c, rfl, isDigit⟩
  | escaped | quoted | bracket | sectionSep | endOfCode => exact isDigit.elim

/-- A digit is multiplied by twenty-four. -/
def IsMultiplied (tokens : List Token) : Prop :=
  ∃ digit ∈ tokens, digit.IsDigit ∧ [digit, .literal '*', .literal '2', .literal '4'] <:+: tokens

instance : DecidablePred IsMultiplied := fun _ => inferInstanceAs (Decidable (∃ _ ∈ _, _ ∧ _))

theorem isMultiplied_cons {token : Token} {rest : List Token} : IsMultiplied (token :: rest) ↔
    token.IsDigit ∧ [.literal '*', .literal '2', .literal '4'] <+: rest ∨ IsMultiplied rest := by
  constructor
  · rintro ⟨digit, -, isDigit, inside⟩
    rcases List.infix_cons_iff.mp inside with opens | later
    · obtain ⟨rfl, follows⟩ := List.cons_prefix_cons.mp opens
      exact .inl ⟨isDigit, follows⟩
    · exact .inr ⟨digit, later.subset List.mem_cons_self, isDigit, later⟩
  · rintro (⟨isDigit, follows⟩ | ⟨digit, member, isDigit, inside⟩)
    · exact ⟨token, List.mem_cons_self, isDigit, (List.cons_prefix_cons.mpr ⟨rfl, follows⟩).isInfix⟩
    · exact ⟨digit, List.mem_cons_of_mem _ member, isDigit, List.infix_cons inside⟩

/-- The end of a code has no part in a multiplication. -/
theorem isMultiplied_append_endOfCode {tokens : List Token} :
    IsMultiplied (tokens ++ [.endOfCode]) ↔ IsMultiplied tokens := by
  constructor
  · rintro ⟨digit, -, isDigit, inside⟩
    rcases List.infix_concat_iff.mp inside with ends | earlier
    · have last := ends.getLast (by simp)
      simp at last
    · exact ⟨digit, earlier.subset List.mem_cons_self, isDigit, earlier⟩
  · rintro ⟨digit, member, isDigit, inside⟩
    exact ⟨digit, List.mem_append_left _ member, isDigit, inside.trans (List.infix_append [] _ _)⟩

theorem kind_unknownTags (found : List LocatedToken) : (found.filterMap unknownTag?).map Issue.kind =
    (unknownContents (found.map LocatedToken.token)).map .unknownTag := by
  induction found with
  | nil => rfl
  | cons located rest ih =>
    obtain ⟨token, span⟩ := located
    cases token with
    | bracket content =>
      cases known : (Tag.ofContent content).isKnown <;>
        simpa [unknownTag?, unknownContents, Token.content?, known] using ih
    | literal | escaped | quoted | sectionSep | endOfCode => exact ih

theorem kind_concatenation? (found : List LocatedToken) : (concatenation? found).map Issue.kind =
    if .literal '&' ∈ found.map LocatedToken.token then some .concatenation else none := by
  split
  · next member =>
    obtain ⟨located, inside, ampersand⟩ := List.mem_map.mp member
    have stands : (found.find? fun located => located.token = .literal '&').isSome :=
      List.find?_isSome.mpr ⟨located, inside, decide_eq_true ampersand⟩
    obtain ⟨first, isFirst⟩ := Option.isSome_iff_exists.mp stands
    rw [concatenation?, isFirst]
    rfl
  · next missing =>
    rw [concatenation?, List.find?_eq_none.mpr]
    · rfl
    · intro located inside ampersand
      exact missing (List.mem_map.mpr ⟨located, inside, of_decide_eq_true ampersand⟩)

/-- What stands behind the digit of a multiplication, with its places. -/
theorem exists_of_multiplied_prefix {found : List LocatedToken}
    (follows : [.literal '*', .literal '2', .literal '4'] <+: found.map LocatedToken.token) :
    ∃ star two last rest, found = ⟨.literal '*', star⟩ :: ⟨.literal '2', two⟩ :: ⟨.literal '4', last⟩ :: rest := by
  match found, follows with
  | ⟨star, starSpan⟩ :: ⟨two, twoSpan⟩ :: ⟨four, last⟩ :: rest, follows =>
    obtain ⟨rfl, rfl, rfl⟩ : .literal '*' = star ∧ .literal '2' = two ∧ .literal '4' = four := by
      simpa [List.cons_prefix_cons] using follows
    exact ⟨starSpan, twoSpan, last, rest, rfl⟩

theorem arithmetic?_of_multiplied {first : LocatedToken} {star two last : Span} (rest : List LocatedToken)
    (isDigit : first.token.IsDigit) :
    arithmetic? (first :: ⟨.literal '*', star⟩ :: ⟨.literal '2', two⟩ :: ⟨.literal '4', last⟩ :: rest) =
      some ⟨.arithmetic, ⟨first.span.start, last.stop⟩⟩ := by
  obtain ⟨digit, spelled, isDigit⟩ := Token.exists_of_isDigit isDigit
  simp only [arithmetic?, spelled, if_pos isDigit]

theorem arithmetic?_of_not_multiplied {first : LocatedToken} {rest : List LocatedToken}
    (passes : ¬(first.token.IsDigit ∧ [.literal '*', .literal '2', .literal '4'] <+: rest.map LocatedToken.token)) :
    arithmetic? (first :: rest) = arithmetic? rest := by
  conv_lhs => unfold arithmetic?
  split
  · next digit star two last after spelled =>
    refine if_neg fun isDigit => passes ⟨?_, after.map LocatedToken.token, rfl⟩
    rwa [spelled]
  · rfl

theorem kind_arithmetic? (found : List LocatedToken) : (arithmetic? found).map Issue.kind =
    if IsMultiplied (found.map LocatedToken.token) then some .arithmetic else none := by
  induction found with
  | nil => rfl
  | cons first rest ih =>
    by_cases multiplied : first.token.IsDigit ∧
        [.literal '*', .literal '2', .literal '4'] <+: rest.map LocatedToken.token
    · rw [List.map_cons, if_pos (isMultiplied_cons.mpr (.inl multiplied))]
      obtain ⟨isDigit, follows⟩ := multiplied
      obtain ⟨star, two, last, after, rfl⟩ := exists_of_multiplied_prefix follows
      rw [arithmetic?_of_multiplied after isDigit]
      rfl
    · rw [arithmetic?_of_not_multiplied multiplied, ih]
      exact if_congr (isMultiplied_cons.trans (or_iff_right multiplied)).symm rfl rfl

/-- The advice about a code is that about its faults, and then that about what can be made of it. -/
theorem kind_validate (code : String) : (validate code).map Issue.kind = (recover code).2.map .malformed ++
    ((unknownContents ((recover code).1.map LocatedToken.token)).map .unknownTag ++
      (if .literal '&' ∈ (recover code).1.map LocatedToken.token then [.concatenation] else []) ++
      (if IsMultiplied ((recover code).1.map LocatedToken.token) then [.arithmetic] else [])) := by
  have once {p : Prop} [Decidable p] (kind : IssueKind) :
      (if p then some kind else none).toList = if p then [kind] else [] := by
    split <;> rfl
  simp only [validate, List.map_append, List.map_map, kind_unknownTags, ← Option.toList_map, kind_concatenation?,
    kind_arithmetic?, once, List.append_assoc]
  rfl

theorem kind_validate_of_reads {code : String} {tokens : List Token} (reads : Reads code.toList tokens) :
    (validate code).map Issue.kind = (unknownContents tokens).map .unknownTag ++
      (if .literal '&' ∈ tokens then [.concatenation] else []) ++
      (if IsMultiplied tokens then [.arithmetic] else []) := by
  obtain ⟨found, scanned, same⟩ := reads.located 0
  have recovered : recover code = _ := recover_of_tokenize scanned
  have ends : (recover code).1.map LocatedToken.token = tokens ++ [.endOfCode] := by
    simp [recovered, same]
  have unknown : unknownContents (tokens ++ [.endOfCode]) = unknownContents tokens := by
    simp [unknownContents, Token.content?]
  rw [kind_validate, ends, unknown]
  simp [recovered, isMultiplied_append_endOfCode]

/-- Scanning accepts just the codes that are put together from forms of tokens. About such a code the advice is
given that its tokens deserve, and no fault is reported. About any other code the first thing said is the fault
that scanning fails with. -/
theorem validate_kinds (code : String) :
    ((∃ found, tokenize code = .ok found) ↔ ∃ tokens, Forms tokens code.toList) ∧
    (∀ tokens, Forms tokens code.toList →
      (validate code).map Issue.kind = (unknownContents tokens).map .unknownTag ++
        (if .literal '&' ∈ tokens then [.concatenation] else []) ++
        (if IsMultiplied tokens then [.arithmetic] else [])) ∧
    ((¬∃ tokens, Forms tokens code.toList) → ∃ error others,
      tokenize code = .error error ∧ (validate code).map Issue.kind = .malformed error :: others) := by
  have accepts : (∃ found, tokenize code = .ok found) ↔ ∃ tokens, Forms tokens code.toList := by
    constructor
    · rintro ⟨found, scanned⟩
      obtain ⟨tokens, reads, -⟩ := Reads.of_scanFrom scanned
      exact ⟨tokens, forms_iff_reads.mpr reads⟩
    · rintro ⟨tokens, forms⟩
      exact (scans_iff_reads.mpr (forms_iff_reads.mp forms)).tokenize_ok
  refine ⟨accepts, fun tokens forms => kind_validate_of_reads (forms_iff_reads.mp forms), fun malformed => ?_⟩
  have strict := tokenize_eq_recover code
  rw [kind_validate]
  cases errors : (recover code).2 with
  | nil =>
    rw [errors] at strict
    exact absurd (accepts.mp ⟨_, strict⟩) malformed
  | cons error later =>
    rw [errors] at strict
    exact ⟨error, _, strict, rfl⟩

/-- Tags without a meaning, one of them twice, operators in quotes, in a bracket and after a backslash, and a
multiplication that begins where another breaks off. A bracket that is never closed spoils another code. -/
theorem validate_kinds_repeated :
    let code := "[Ten]1\"\"*24[h]\"[x]&\"\\&[&]1*2*24[Ten]&&[$-x]3*24"
    let unclosed := "1*24&[Ten][Red\"&\\"
    ((∃ tokens, Forms tokens code.toList) ∧ (validate code).map Issue.kind =
      [.unknownTag "Ten", .unknownTag "&", .unknownTag "Ten", .concatenation, .arithmetic]) ∧
    (¬∃ tokens, Forms tokens unclosed.toList) ∧ ∃ error others, tokenize unclosed = .error error ∧
      error = ⟨.unterminatedBracket, 10⟩ ∧ (validate unclosed).map Issue.kind = .malformed error :: others := by
  intro code unclosed
  have scans : Scans code [.bracket "Ten", .literal '1', .quoted "", .literal '*', .literal '2', .literal '4',
      .bracket "h", .quoted "[x]&", .escaped '&', .bracket "&", .literal '1', .literal '*', .literal '2',
      .literal '*', .literal '2', .literal '4', .bracket "Ten", .literal '&', .literal '&', .bracket "$-x",
      .literal '3', .literal '*', .literal '2', .literal '4'] := by
    unfold Scans
    decide +kernel
  have failed : tokenize unclosed = .error ⟨.unterminatedBracket, 10⟩ := by decide +kernel
  have forms := forms_iff_reads.mpr (scans_iff_reads.mp scans)
  obtain ⟨-, advice, -⟩ := validate_kinds code
  obtain ⟨accepts, -, faulty⟩ := validate_kinds unclosed
  have malformed : ¬∃ tokens, Forms tokens unclosed.toList := by
    rw [← accepts, failed]
    rintro ⟨found, scanned⟩
    cases scanned
  obtain ⟨error, others, strict, first⟩ := faulty malformed
  refine ⟨⟨⟨_, forms⟩, (advice _ forms).trans (by decide +kernel)⟩, malformed, error, others, strict, ?_, first⟩
  exact Except.error.inj (strict.symm.trans failed)

end CellFormat

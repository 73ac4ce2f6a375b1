import CellFormat.Proofs.Reads
import Mathlib.Data.List.Chain
import Mathlib.Data.String.Basic

/-!
The spans of the tokens of a code: they cover it from its first byte to its last, one behind the other and
none splitting a character, each over a form of its token.
-/

namespace CellFormat

/-- The part of a code that a span covers. -/
def Span.slice (span : Span) (code : String) : String :=
  String.Pos.Raw.extract code ⟨span.start⟩ ⟨span.stop⟩

theorem Span.slice_eq {code : String} {before source after : List Char}
    (whole : code.toList = before ++ source ++ after) :
    slice ⟨utf8Length before, utf8Length before + utf8Length source⟩ code = String.ofList source := by
  have cut := String.extract_of_valid before source after
  rw [← whole, String.ofList_toList] at cut
  simp only [← String.utf8ByteSize_ofList, ← utf8Length_toList, String.toList_ofList] at cut
  exact cut

theorem isValid_of_toList_eq {code : String} {before after : List Char}
    (whole : code.toList = before ++ after) : String.Pos.Raw.IsValid code ⟨utf8Length before⟩ := by
  have parts : code = String.ofList before ++ String.ofList after := by
    rw [← String.toList_inj]
    simpa using whole
  have size : utf8Length before = (String.ofList before).utf8ByteSize := by
    simpa using utf8Length_toList (String.ofList before)
  exact String.Pos.Raw.isValid_iff_exists_append.mpr ⟨_, _, parts, congrArg String.Pos.Raw.mk size⟩

/-- Located tokens that cover a text from an offset on, each over a form of it. -/
inductive Covers : Nat → List Char → List LocatedToken → Prop
  | finish {offset} : Covers offset [] [⟨.endOfCode, ⟨offset, offset⟩⟩]
  | next {offset source after later} {token : Token} :
      token.Form source → Covers (offset + utf8Length source) after later →
      Covers offset (source ++ after) (⟨token, ⟨offset, offset + utf8Length source⟩⟩ :: later)

theorem covers_of_scanFrom {text : List Char} {offset : Nat} {found : List LocatedToken}
    (scanned : scanFrom offset (pieces text) = .ok found) : Covers offset text found := by
  fun_induction pieces text generalizing offset found with
  | case1 =>
    cases scanned
    exact .finish
  | case2 c rest ih =>
    rcases read : firstPiece c rest with ⟨⟨source, reading⟩, after⟩
    rw [read] at scanned ih
    cases reading with
    | error fault => cases scanned
    | ok token =>
      obtain ⟨form, whole⟩ := firstPiece_eq_ok_iff.mp read
      simp only [scanFrom] at scanned
      cases later : scanFrom (offset + utf8Length source) (pieces after) with
      | error fault => rw [later] at scanned; cases scanned
      | ok foundLater =>
        rw [later] at scanned
        cases scanned
        exact whole ▸ .next form (ih later)

theorem Token.Form.ne_endOfCode {source : List Char} {token : Token} (form : token.Form source) :
    token ≠ .endOfCode := by
  cases form <;> simp

namespace Covers

variable {offset : Nat} {text : List Char} {found : List LocatedToken}

theorem head?_start (covers : Covers offset text found) : found.head?.map (·.span.start) = some offset := by
  cases covers <;> rfl

/-- Each token begins where the one before it stops. -/
theorem isChain (covers : Covers offset text found) :
    found.IsChain fun located next => next.span.start = located.span.stop := by
  induction covers with
  | finish => exact .singleton _
  | next _ later ih =>
    refine List.isChain_cons.mpr ⟨fun second opens => ?_, ih⟩
    have start := later.head?_start
    rw [opens] at start
    exact Option.some.inj start

theorem ends (covers : Covers offset text found) :
    ∃ tokens, found = tokens ++ [⟨.endOfCode, ⟨offset + utf8Length text, offset + utf8Length text⟩⟩] ∧
      ∀ located ∈ tokens, located.token ≠ .endOfCode := by
  induction covers with
  | finish => exact ⟨[], rfl, by simp⟩
  | @next offset source after later token form _ ih =>
    obtain ⟨tokens, rfl, others⟩ := ih
    refine ⟨⟨token, ⟨offset, offset + utf8Length source⟩⟩ :: tokens, ?_, ?_⟩
    · simp only [utf8Length_append, Nat.add_assoc, List.cons_append]
    · exact List.forall_mem_cons.mpr ⟨form.ne_endOfCode, others⟩

/-- A token stands over a part of the text, which is a form of it if it is not the end. -/
theorem exists_form (covers : Covers offset text found) {located : LocatedToken} (member : located ∈ found) :
    ∃ before source after, text = before ++ source ++ after ∧
      located.span = ⟨offset + utf8Length before, offset + utf8Length before + utf8Length source⟩ ∧
      (located.token ≠ .endOfCode → located.token.Form source) := by
  induction covers with
  | finish =>
    rw [List.mem_singleton] at member
    subst member
    exact ⟨[], [], [], rfl, rfl, fun other => absurd rfl other⟩
  | @next offset source after later token form _ ih =>
    rcases List.mem_cons.mp member with rfl | inside
    · exact ⟨[], source, after, rfl, rfl, fun _ => form⟩
    · obtain ⟨before, part, behind, rfl, span, formed⟩ := ih inside
      refine ⟨source ++ before, part, behind, by simp, ?_, formed⟩
      rw [span, utf8Length_append, Nat.add_assoc]

end Covers

/-- The spans of a scan run from the first byte to the end, which stands behind the last and only there.
Each begins where the one before it stops, between characters, and covers a form of its token. -/
theorem tokenize_spans {code : String} {found : List LocatedToken} (scanned : tokenize code = .ok found) :
    found.head?.map (·.span.start) = some 0 ∧
    found.IsChain (fun located next => next.span.start = located.span.stop) ∧
    (∃ tokens, found = tokens ++ [⟨.endOfCode, ⟨code.utf8ByteSize, code.utf8ByteSize⟩⟩] ∧
      ∀ located ∈ tokens, located.token ≠ .endOfCode) ∧
    ∀ located ∈ found,
      String.Pos.Raw.IsValid code ⟨located.span.start⟩ ∧ String.Pos.Raw.IsValid code ⟨located.span.stop⟩ ∧
      (located.token ≠ .endOfCode → located.token.Form (located.span.slice code).toList) := by
  have covers : Covers 0 code.toList found := covers_of_scanFrom scanned
  refine ⟨covers.head?_start, covers.isChain, ?_, ?_⟩
  · have ends := covers.ends
    rwa [utf8Length_toList, Nat.zero_add] at ends
  · intro located member
    obtain ⟨before, source, after, whole, span, form⟩ := covers.exists_form member
    have stops : code.toList = (before ++ source) ++ after := whole
    have starts : code.toList = before ++ (source ++ after) := by rw [whole, List.append_assoc]
    have stop := isValid_of_toList_eq stops
    rw [utf8Length_append] at stop
    rw [Nat.zero_add] at span
    rw [span, Span.slice_eq whole, String.toList_ofList]
    exact ⟨isValid_of_toList_eq starts, stop, form⟩

/-- Characters of one to four bytes, a bracket with a quote in it, and quotes with escapes in them. -/
theorem tokenize_spans_wide :
    let code := "é[€\"]\\𝄞;\"a\\\"\\é\""
    let found : List LocatedToken := [⟨.literal 'é', ⟨0, 2⟩⟩, ⟨.bracket "€\"", ⟨2, 8⟩⟩, ⟨.escaped '𝄞', ⟨8, 13⟩⟩,
      ⟨.sectionSep, ⟨13, 14⟩⟩, ⟨.quoted "a\"é", ⟨14, 22⟩⟩, ⟨.endOfCode, ⟨22, 22⟩⟩]
    tokenize code = .ok found ∧
    found.head?.map (·.span.start) = some 0 ∧
    found.IsChain (fun located next => next.span.start = located.span.stop) ∧
    (∃ tokens, found = tokens ++ [⟨.endOfCode, ⟨code.utf8ByteSize, code.utf8ByteSize⟩⟩] ∧
      ∀ located ∈ tokens, located.token ≠ .endOfCode) ∧
    ∀ located ∈ found,
      String.Pos.Raw.IsValid code ⟨located.span.start⟩ ∧ String.Pos.Raw.IsValid code ⟨located.span.stop⟩ ∧
      (located.token ≠ .endOfCode → located.token.Form (located.span.slice code).toList) := by
  intro code found
  have scanned : tokenize code = .ok found := by decide +kernel
  exact ⟨scanned, tokenize_spans scanned⟩

end CellFormat

import CellFormat.Proofs.Reads
import Mathlib.Data.Nat.Basic

/-!
The grammar of codes: scanning accepts just the texts put together from forms of tokens. In any other text
it fails at the first fault, behind a part that is put together so.
-/

namespace CellFormat

/-- A text put together from forms of tokens. -/
def Grammatical (text : List Char) : Prop :=
  ∃ sources : List (List Char), (∀ source ∈ sources, ∃ token : Token, token.Form source) ∧
    text = sources.flatten

namespace Grammatical

theorem nil : Grammatical [] := ⟨[], by simp, rfl⟩

theorem append {source text : List Char} {token : Token} (form : token.Form source)
    (grammatical : Grammatical text) : Grammatical (source ++ text) := by
  obtain ⟨sources, forms, rfl⟩ := grammatical
  exact ⟨source :: sources, List.forall_mem_cons.mpr ⟨⟨token, form⟩, forms⟩, rfl⟩

end Grammatical

theorem Reads.grammatical {text : List Char} {tokens : List Token} (reads : Reads text tokens) :
    Grammatical text := by
  induction reads with
  | done => exact .nil
  | next read _ ih =>
    obtain ⟨form, whole⟩ := firstPiece_eq_ok_iff.mp read
    exact whole ▸ ih.append form

theorem grammatical_iff_reads {text : List Char} : Grammatical text ↔ ∃ tokens, Reads text tokens := by
  constructor
  · rintro ⟨sources, forms, rfl⟩
    induction sources with
    | nil => exact ⟨[], .done⟩
    | cons source later ih =>
      obtain ⟨token, form⟩ := forms source List.mem_cons_self
      obtain ⟨tokens, reads⟩ := ih fun other member => forms other (List.mem_cons_of_mem _ member)
      exact ⟨token :: tokens, form.reads.append reads⟩
  · rintro ⟨tokens, reads⟩
    exact reads.grammatical

/-- A scan fails at the first fault: what stands before it is put together from forms of tokens. -/
theorem exists_opens_of_scanFrom {text : List Char} {offset : Nat} {error : ScanError}
    (failed : scanFrom offset (pieces text) = .error error) :
    ∃ before c after, text = before ++ c :: after ∧ error.position = offset + utf8Length before ∧
      Grammatical before ∧ error.fault.Opens c after := by
  fun_induction pieces text generalizing offset with
  | case1 => cases failed
  | case2 c rest ih =>
    rcases read : firstPiece c rest with ⟨⟨source, reading⟩, after⟩
    rw [read] at failed ih
    dsimp only at ih
    cases reading with
    | error fault =>
      cases failed
      exact ⟨[], c, rest, rfl, rfl, .nil, Fault.opens_of_firstPiece read⟩
    | ok token =>
      obtain ⟨form, whole⟩ := firstPiece_eq_ok_iff.mp read
      simp only [scanFrom] at failed
      cases later : scanFrom (offset + utf8Length source) (pieces after) with
      | ok found => rw [later] at failed; cases failed
      | error fault =>
        rw [later] at failed
        cases failed
        obtain ⟨before, next, behind, rfl, position, grammatical, opens⟩ := ih later
        refine ⟨source ++ before, next, behind, ?_, ?_, grammatical.append form, opens⟩
        · rw [← whole, List.append_assoc]
        · rw [position, utf8Length_append, Nat.add_assoc]

/-- Scanning accepts just the grammatical codes. Elsewhere the error has the place of the first fault:
before it the code is grammatical, and which fault it is shows from there on. -/
theorem tokenize_ok_iff_grammatical (code : String) :
    ((∃ found, tokenize code = .ok found) ↔ Grammatical code.toList) ∧
    ∀ error, tokenize code = .error error →
      ∃ (before : String) (c : Char) (after : String), code = before ++ String.singleton c ++ after ∧
        before.utf8ByteSize = error.position ∧ Grammatical before.toList ∧
        ∀ fault, error.fault = fault ↔ fault.Opens c after.toList := by
  constructor
  · rw [grammatical_iff_reads]
    constructor
    · rintro ⟨found, scanned⟩
      obtain ⟨tokens, reads, _⟩ := Reads.of_scanFrom scanned
      exact ⟨tokens, reads⟩
    · rintro ⟨tokens, reads⟩
      obtain ⟨found, scanned, _⟩ := reads.located 0
      exact ⟨_, scanned⟩
  · intro error failed
    have failed : scanFrom 0 (pieces code.toList) = .error error := failed
    obtain ⟨before, c, after, whole, position, grammatical, opens⟩ := exists_opens_of_scanFrom failed
    refine ⟨String.ofList before, c, String.ofList after, ?_, ?_, by simpa using grammatical, ?_⟩
    · rw [← String.toList_inj]
      simpa using whole
    · rw [← utf8Length_toList, String.toList_ofList, position, Nat.zero_add]
    · intro fault
      rw [String.toList_ofList]
      constructor
      · rintro rfl
        exact opens
      · exact opens.unique

/-- A bracket and a separator in quotes, an escaped bracket and a quote in a bracket are no faults; the quote
after them is, for its only closing quote has a backslash. -/
theorem tokenize_ok_iff_grammatical_unclosed :
    let code := "\"é;[\"\\[[\"]\";]\\\"\\"
    ∃ error, tokenize code = .error error ∧ error = ⟨.unterminatedQuote, 11⟩ ∧
      ∃ (before : String) (c : Char) (after : String), code = before ++ String.singleton c ++ after ∧
        before.utf8ByteSize = error.position ∧ Grammatical before.toList ∧
        ∀ fault, error.fault = fault ↔ fault.Opens c after.toList := by
  intro code
  have failed : tokenize code = .error ⟨.unterminatedQuote, 11⟩ := by decide +kernel
  exact ⟨_, failed, rfl, (tokenize_ok_iff_grammatical code).2 _ failed⟩

end CellFormat

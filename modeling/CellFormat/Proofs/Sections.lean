import CellFormat.Proofs.Reads
import Mathlib.Data.Nat.Basic

/-!
The sections of a code that is joined from sections.
-/

namespace CellFormat

theorem sectionsOf_ne_nil (found : List Piece) : sectionsOf found ≠ [] := by
  fun_cases sectionsOf found <;> simp

theorem sectionsOf_cons {piece : Piece} (plain : piece.isSectionSep = false) (rest : List Piece) :
    sectionsOf (piece :: rest) = (sectionsOf rest).modifyHead (piece.source ++ ·) := by
  cases later : sectionsOf rest with
  | nil => exact absurd later (sectionsOf_ne_nil rest)
  | cons current others => simp [sectionsOf, plain, later]

/-- A text without a separator among its tokens goes whole into the section that is open. -/
theorem Reads.sectionsOf_append {text : List Char} {tokens : List Token} (reads : Reads text tokens)
    (single : .sectionSep ∉ tokens) (more : List Char) :
    sectionsOf (pieces (text ++ more)) = (sectionsOf (pieces more)).modifyHead (text ++ ·) := by
  induction reads with
  | done =>
    rw [List.nil_append]
    cases sectionsOf (pieces more) <;> rfl
  | @next c rest source token after tokens read _ ih =>
    have whole := firstPiece_source_append c rest
    rw [read] at whole
    have different : token ≠ .sectionSep := by
      rintro rfl
      simp at single
    have plain : Piece.isSectionSep ⟨source, .ok token⟩ = false := by
      cases token <;> simp_all [Piece.isSectionSep]
    have later := ih fun member => single (List.mem_cons_of_mem _ member)
    rw [List.cons_append, pieces_cons, firstPiece_append read more, sectionsOf_cons plain, later,
      List.modifyHead_modifyHead, ← whole]
    simp [Function.comp_def]

theorem sectionsOf_separator (rest : List Char) :
    sectionsOf (pieces (';' :: rest)) = [] :: sectionsOf (pieces rest) := by
  rw [pieces_cons]
  rfl

/-- A code that scans and in which nothing separates sections. -/
def IsSection (code : String) : Prop := ∃ tokens, Scans code tokens ∧ .sectionSep ∉ tokens

theorem scans_separator : Scans ";" [.sectionSep] :=
  scans_iff_reads.mpr (.next rfl .done)

/-- Codes that scan scan joined by semicolons, with what holds of all their tokens and of a separator. -/
theorem exists_scans_intercalate {p : Token → Prop} (separator : p .sectionSep) {codes : List String}
    (each : ∀ code ∈ codes, ∃ tokens, Scans code tokens ∧ ∀ token ∈ tokens, p token) :
    ∃ tokens, Scans (";".intercalate codes) tokens ∧ ∀ token ∈ tokens, p token := by
  induction codes with
  | nil => exact ⟨[], .empty, by simp⟩
  | cons first rest ih =>
    obtain ⟨tokens, scans, inside⟩ := each first List.mem_cons_self
    obtain ⟨others, further, insideOthers⟩ := ih fun code member => each code (List.mem_cons_of_mem _ member)
    cases rest with
    | nil => exact ⟨tokens, String.intercalate_singleton ▸ scans, inside⟩
    | cons second later =>
      rw [String.intercalate_cons_cons]
      refine ⟨_, (scans.append scans_separator).append further, fun token member => ?_⟩
      rcases List.mem_append.mp member with opening | other
      · rcases List.mem_append.mp opening with token | separates
        · exact inside _ token
        · rwa [List.mem_singleton.mp separates]
      · exact insideOthers token other

theorem scans_intercalate {codes : List String} (each : ∀ code ∈ codes, IsSection code) :
    ∃ tokens, Scans (";".intercalate codes) tokens := by
  obtain ⟨tokens, scans, -⟩ := @exists_scans_intercalate (fun _ => True) trivial codes fun code member => by
    obtain ⟨tokens, scans, -⟩ := each code member
    exact ⟨tokens, scans, by simp⟩
  exact ⟨tokens, scans⟩

theorem sectionsOf_intercalate {codes : List String} (nonempty : codes ≠ [])
    (each : ∀ code ∈ codes, IsSection code) :
    sectionsOf (pieces (";".intercalate codes).toList) = codes.map String.toList := by
  induction codes with
  | nil => exact absurd rfl nonempty
  | cons first rest ih =>
    obtain ⟨tokens, scans, single⟩ := each first List.mem_cons_self
    have reads := scans_iff_reads.mp scans
    cases rest with
    | nil =>
      have alone := reads.sectionsOf_append single []
      simpa [pieces_nil, sectionsOf] using alone
    | cons second later =>
      have others := ih (List.cons_ne_nil second later) fun code member =>
        each code (List.mem_cons_of_mem _ member)
      have opened : (";" ++ ";".intercalate (second :: later)).toList =
          ';' :: (";".intercalate (second :: later)).toList := by simp
      rw [String.intercalate_cons_cons, String.append_assoc, String.toList_append,
        reads.sectionsOf_append single, opened, sectionsOf_separator, others]
      simp

/-- Sections joined by semicolons come apart again as they were. -/
theorem splitSections_intercalate {codes : List String} (nonempty : codes ≠ [])
    (each : ∀ code ∈ codes, IsSection code) : splitSections (";".intercalate codes) = .ok codes := by
  obtain ⟨tokens, scans⟩ := scans_intercalate each
  obtain ⟨found, scanned⟩ := scans.tokenize_ok
  rw [splitSections, scanned, sectionsOf_intercalate nonempty each]
  simp [Except.map, Function.comp_def]

/-- Every text that reads is a join of sections, one more than it has separators. -/
theorem Reads.exists_sections {text : List Char} {tokens : List Token} (reads : Reads text tokens) :
    ∃ sections : List String, sections.length = tokens.count .sectionSep + 1 ∧
      (∀ code ∈ sections, IsSection code) ∧ (";".intercalate sections).toList = text := by
  induction reads with
  | done => exact ⟨[""], rfl, by simpa using ⟨[], Scans.empty, by simp⟩, by simp⟩
  | @next c rest source token after tokens read _ ih =>
    obtain ⟨form, whole⟩ := firstPiece_eq_ok_iff.mp read
    obtain ⟨sections, length, each, joined⟩ := ih
    obtain ⟨first, later, rfl⟩ := List.exists_cons_of_length_eq_add_one length
    obtain ⟨⟨inside, scans, single⟩, others⟩ := List.forall_mem_cons.mp each
    by_cases separates : token = .sectionSep
    · subst separates
      cases form
      refine ⟨"" :: first :: later, ?_, List.forall_mem_cons.mpr ⟨⟨[], .empty, by simp⟩, each⟩, ?_⟩
      · simpa using length
      · rw [String.intercalate_cons_cons, ← whole, ← joined]
        simp
    · have opened : Scans (String.ofList source ++ first) (token :: inside) := by
        rw [scans_iff_reads, String.toList_append, String.toList_ofList]
        exact form.reads.append (scans_iff_reads.mp scans)
      have plain : .sectionSep ∉ token :: inside := by
        simpa [eq_comm, separates] using single
      refine ⟨(String.ofList source ++ first) :: later, ?_,
        List.forall_mem_cons.mpr ⟨⟨_, opened, plain⟩, others⟩, ?_⟩
      · rw [List.count_cons_of_ne separates]
        exact length
      · rw [← whole, ← joined]
        cases later <;> simp [String.intercalate_cons_cons]

theorem splitSections_eq_error_iff {code : String} {error : ScanError} :
    splitSections code = .error error ↔ tokenize code = .error error := by
  rw [splitSections]
  cases tokenize code <;> simp [Except.map]

theorem splitSections_sound {code : String} {sections : List String}
    (split : splitSections code = .ok sections) :
    ∃ found, tokenize code = .ok found ∧
      sections.length = (found.map LocatedToken.token).count .sectionSep + 1 ∧
      (∀ part ∈ sections, IsSection part) ∧ ";".intercalate sections = code := by
  cases scanned : tokenize code with
  | error fault =>
    rw [splitSections_eq_error_iff.mpr scanned] at split
    cases split
  | ok found =>
    obtain ⟨tokens, reads, same⟩ := Reads.of_scanFrom scanned
    obtain ⟨parts, length, each, joined⟩ := reads.exists_sections
    have whole : ";".intercalate parts = code := String.toList_inj.mp joined
    -- The join of the parts splits into just these, so they are the sections.
    have again := splitSections_intercalate (List.ne_nil_of_length_eq_add_one length) each
    rw [whole, split] at again
    cases again
    refine ⟨found, rfl, ?_, each, whole⟩
    rw [same, length]
    simp

/-- A code splits just into the sections that it is a join of, one more than it has separators. It fails to
split as it fails to scan. -/
theorem splitSections_iff (code : String) :
    (∀ sections, splitSections code = .ok sections ↔
      sections ≠ [] ∧ (∀ part ∈ sections, IsSection part) ∧ ";".intercalate sections = code) ∧
    (∀ sections, splitSections code = .ok sections → ∃ found, tokenize code = .ok found ∧
      sections.length = (found.map LocatedToken.token).count .sectionSep + 1) ∧
    ∀ error, splitSections code = .error error ↔ tokenize code = .error error := by
  refine ⟨fun sections => ⟨fun split => ?_, ?_⟩, fun sections split => ?_, fun error => ?_⟩
  · obtain ⟨_, _, length, each, whole⟩ := splitSections_sound split
    exact ⟨List.ne_nil_of_length_eq_add_one length, each, whole⟩
  · rintro ⟨nonempty, each, rfl⟩
    exact splitSections_intercalate nonempty each
  · obtain ⟨found, scanned, length, _⟩ := splitSections_sound split
    exact ⟨found, scanned, length⟩
  · exact splitSections_eq_error_iff

/-- A semicolon in quotes, one in a bracket and one behind a backslash; the section between two that separate
is empty. -/
theorem splitSections_iff_hidden :
    let sections := ["\"a;\"[;]", "", "\\;"]
    let code := "\"a;\"[;];;\\;"
    splitSections code = .ok sections ∧ (∀ part ∈ sections, IsSection part) ∧
    ";".intercalate sections = code ∧ ∃ found, tokenize code = .ok found ∧
      sections.length = (found.map LocatedToken.token).count .sectionSep + 1 := by
  intro sections code
  have split : splitSections code = .ok sections := by decide +kernel
  obtain ⟨joins, counts, _⟩ := splitSections_iff code
  obtain ⟨_, each, whole⟩ := (joins sections).mp split
  exact ⟨split, each, whole, counts sections split⟩

end CellFormat

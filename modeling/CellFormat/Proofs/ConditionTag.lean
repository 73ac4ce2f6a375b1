import CellFormat.Code.Tag
import CellFormat.Proofs.NumberReading
import CellFormat.Proofs.Trimming
import CellFormat.Proofs.Written

/-!
The tags of conditions and locales read back as what they were written for. The sign of a condition is taken as
long as it goes and no longer, the rest is the threshold, and no color or time unit begins with the mark of a
condition or a locale.
-/

namespace CellFormat

theorem isBlank_of_isDigit {c : Char} (digit : c.isDigit = true) : isBlank c = false := by
  obtain ⟨above, below⟩ := Char.isDigit_iff_toNat.mp digit
  have first : '0'.toNat = 48 := rfl
  have last : '9'.toNat = 57 := rfl
  simp only [isBlank, Bool.or_eq_false_iff, Bool.and_eq_false_iff, decide_eq_false_iff_not,
    beq_eq_false_iff_ne]
  omega

theorem trimBlank_of_forall {text : List Char} (solid : ∀ c ∈ text, isBlank c = false) :
    trimBlank text = text :=
  trimBlank_of_isTrimmed (isTrimmed_of_forall solid)

namespace Condition

theorem isSignChar_iff {c : Char} : isSignChar c = true ↔ c = '<' ∨ c = '>' ∨ c = '=' := by
  simp [isSignChar, or_assoc]

theorem isSignChar_of_isDigit {c : Char} (digit : c.isDigit = true) : isSignChar c = false := by
  cases sign : isSignChar c with
  | false => rfl
  | true => rcases isSignChar_iff.mp sign with rfl | rfl | rfl <;> exact absurd digit (by decide)

/-- Neither a blank nor a sign stands in the text of a number. -/
theorem solid_of_mem_text {x : Binary64} {c : Char} (member : c ∈ x.text.toList) :
    isBlank c = false ∧ isSignChar c = false := by
  rcases Binary64.mem_text member with digit | letter
  · exact ⟨isBlank_of_isDigit digit, isSignChar_of_isDigit digit⟩
  · have solid : ['.', '-', 'i', 'n', 'f', 'N', 'a'].all (fun c => !isBlank c && !isSignChar c) = true := by
      decide
    simpa using List.all_eq_true.mp solid c letter

theorem isSignChar_of_mem_sign {comparison : Comparison} {c : Char} (member : c ∈ comparison.sign.toList) :
    isSignChar c = true := by
  revert c
  cases comparison <;> simp [Comparison.sign, isSignChar]

/-- The text of a condition reads as the condition. -/
theorem ofText_text (condition : Condition) : ofText condition.text = .ok condition := by
  obtain ⟨comparison, threshold⟩ := condition
  have signChars : ∀ c ∈ comparison.sign.toList, isSignChar c = true := fun c => isSignChar_of_mem_sign
  have solid : ∀ c ∈ threshold.text.toList, isBlank c = false := fun c member => (solid_of_mem_text member).1
  have characters : (Condition.text ⟨comparison, threshold⟩).toList =
      comparison.sign.toList ++ threshold.text.toList := String.toList_append
  have trimmed : trimBlank (comparison.sign.toList ++ threshold.text.toList) =
      comparison.sign.toList ++ threshold.text.toList := by
    refine trimBlank_of_forall fun c member => ?_
    rcases List.mem_append.mp member with sign | number
    · rcases isSignChar_iff.mp (signChars c sign) with rfl | rfl | rfl <;> decide
    · exact solid c number
  -- The sign ends where the number begins, so it is not read longer than it was written.
  have ends : threshold.text.toList.takeWhile isSignChar = [] ∧
      threshold.text.toList.dropWhile isSignChar = threshold.text.toList := by
    cases opens : threshold.text.toList with
    | nil => exact ⟨rfl, rfl⟩
    | cons c rest =>
      have number := (solid_of_mem_text (opens ▸ List.mem_cons_self)).2
      exact ⟨List.takeWhile_cons_of_neg (by simp [number]), List.dropWhile_cons_of_neg (by simp [number])⟩
  have sign : (comparison.sign.toList ++ threshold.text.toList).takeWhile isSignChar =
      comparison.sign.toList := by
    rw [List.takeWhile_append_of_pos signChars, ends.1, List.append_nil]
  have number : (comparison.sign.toList ++ threshold.text.toList).dropWhile isSignChar =
      threshold.text.toList := by
    rw [List.dropWhile_append_of_pos signChars, ends.2]
  have nonempty : comparison.sign.toList.isEmpty = false := by cases comparison <;> rfl
  have spelled : Spelled.ofSpelling? comparison.sign = some comparison :=
    Spelled.ofSpelling?_spelling comparison
  have named : Comparison.ofSign comparison.sign = .ok comparison := by
    rw [Comparison.ofSign, spelled]
  unfold ofText
  dsimp only
  rw [characters, trimmed, sign, number, nonempty, trimBlank_of_forall solid, String.ofList_toList,
    String.ofList_toList, named, Binary64.ofText?_text]
  rfl

end Condition

namespace Tag

/-- The characters that the tags of conditions and locales begin with. -/
def openingMarks : List Char := ['<', '>', '=', '$']

theorem head?_lowercase {text : String} {c : Char} (opens : text.toList.head? = some c)
    (mark : c ∈ openingMarks) : (lowercase text).toList.head? = some c := by
  obtain ⟨rest, whole⟩ := List.head?_eq_some_iff.mp opens
  rw [lowercase, String.toList_ofList, whole, lowerAfter]
  simp only [openingMarks, List.mem_cons, List.not_mem_nil, or_false] at mark
  rcases mark with rfl | rfl | rfl | rfl <;> rfl

/-- What begins with a mark is neither a color nor a time unit. -/
theorem ofContent_of_mark {content : String} {c : Char} (opens : content.toList.head? = some c)
    (mark : c ∈ openingMarks) :
    ofContent content = if c = '$' then .locale content else ofConditionText content := by
  have lower := head?_lowercase opens mark
  have noColor : Color.ofName content = .error (.unknownColor content) := by
    have none : (Spelled.values.find? fun color : Color => lowercase color.name == lowercase content) = none := by
      rw [List.find?_eq_none]
      intro color _ same
      have letter : ∃ d, (lowercase color.name).toList.head? = some d ∧ d ∉ openingMarks := by
        cases color <;> exact ⟨_, rfl, by decide⟩
      obtain ⟨d, begins, noMark⟩ := letter
      rw [beq_iff_eq.mp same, lower] at begins
      cases begins
      exact noMark mark
    rw [Color.ofName, none]
  have noUnit : lowercase content ∉ timeUnitTags := by
    intro member
    have letter : ∀ unit ∈ timeUnitTags, ∀ d ∈ unit.toList.head?, d ∉ openingMarks := by
      simp [timeUnitTags, openingMarks]
    exact letter _ member c lower mark
  unfold ofContent
  rw [noColor]
  simp only [noUnit, opens, Option.some.injEq, if_false]

/-- What begins with a dollar sign names a locale, whatever follows. -/
theorem ofContent_of_dollar {content : String} (opens : content.toList.head? = some '$') :
    ofContent content = .locale content := by
  rw [ofContent_of_mark opens (by decide), if_pos rfl]

theorem ofContent_name (color : Color) : ofContent color.name = .color color := by
  cases color <;> rfl

/-- The content of a condition's tag means the condition. -/
theorem ofContent_text (condition : Condition) : ofContent condition.text = .condition condition := by
  have opens : ∃ c, condition.text.toList.head? = some c ∧ c ∈ openingMarks ∧ c ≠ '$' ∧
      Condition.isSignChar c = true := by
    unfold Condition.text
    rw [String.toList_append]
    cases condition.comparison <;> exact ⟨_, rfl, by decide, by decide, by decide⟩
  obtain ⟨c, opens, mark, noDollar, sign⟩ := opens
  rw [ofContent_of_mark opens mark, if_neg noDollar, ofConditionText, opens, Option.any_some, sign,
    Condition.ofText_text]

/-- The tag of a condition scans to one bracket, and what stands in it means the condition, as it does on its own.
The tag that a text names a locale by means that locale and nothing else, and scans to one bracket just if it has
no closing bracket in it. -/
theorem tags_read_back :
    (∀ condition : Condition, Scans condition.tag [.bracket condition.text] ∧
      ofContent condition.text = .condition condition ∧ Condition.ofText condition.text = .ok condition) ∧
    ∀ text tag, localeTag? text = some tag → ofContent tag = .locale tag ∧
      (Scans ("[" ++ tag ++ "]") [.bracket tag] ↔ ']' ∉ tag.toList) := by
  refine ⟨fun condition => ⟨?_, ofContent_text condition, condition.ofText_text⟩, fun text tag named => ⟨?_, ?_⟩⟩
  · exact scans_bracket condition.closing_notMem_text
  · exact ofContent_of_dollar (localeTag?_head named)
  · exact ⟨Scans.closing_notMem, scans_bracket⟩

/-- A threshold that is no number, and locales named like a color and like a condition with a bracket to close. -/
theorem tags_read_back_marks :
    let condition : Condition := ⟨.notEqual, .nan⟩
    (Scans "[<>NaN]" [.bracket "<>NaN"] ∧ ofContent "<>NaN" = .condition condition ∧
      Condition.ofText "<>NaN" = .ok condition) ∧
    localeTag? "[ Red;\"" = some "$-Red;\"" ∧ ofContent "$-Red;\"" = .locale "$-Red;\"" ∧
    Scans "[$-Red;\"]" [.bracket "$-Red;\""] ∧
    localeTag? "$>=1]" = some "$>=1]" ∧ ofContent "$>=1]" = .locale "$>=1]" ∧
    ¬Scans "[$>=1]]" [.bracket "$>=1]"] := by
  intro condition
  obtain ⟨conditions, locales⟩ := tags_read_back
  have color : localeTag? "[ Red;\"" = some "$-Red;\"" := by decide
  have closed : localeTag? "$>=1]" = some "$>=1]" := by decide
  obtain ⟨meaning, scans⟩ := locales _ _ color
  obtain ⟨closedMeaning, closedScans⟩ := locales _ _ closed
  exact ⟨conditions condition, color, meaning, scans.mpr (by decide), closed, closedMeaning,
    closedScans.not.mpr (by decide)⟩

end Tag

end CellFormat

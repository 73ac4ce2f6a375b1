import CellFormat.Number.Preview
import CellFormat.Proofs.ConditionTag
import CellFormat.Proofs.NumberTokens

/-!
The color of a number. The section that its sign selects begins with the tag of the color that the preview shows
the number in, and has no other tag: what the user's texts have of brackets stays in quotes.
-/

namespace CellFormat

namespace IsColored

variable {color : Option Color} {tokens : List Token}

theorem bracket_notMem_tail (colored : IsColored color tokens) (content : String) :
    .bracket content ∉ tokens.tail := by
  obtain ⟨rest, rfl, single⟩ := colored
  cases color with
  | none => exact fun member => single content (List.mem_of_mem_tail member)
  | some color => exact single content

/-- The color is what the first token means, if it is a bracket. -/
theorem eq_some_iff (colored : IsColored color tokens) (found : Color) :
    color = some found ↔ ∃ content, tokens.head? = some (.bracket content) ∧ Tag.ofContent content = .color found := by
  obtain ⟨rest, rfl, single⟩ := colored
  cases color with
  | none =>
    constructor
    · intro absent
      cases absent
    · rintro ⟨content, first, -⟩
      exact absurd (List.mem_of_mem_head? first) (single content)
  | some color => simp [colorTokens, Tag.ofContent_name]

theorem eq_none_iff (colored : IsColored color tokens) : color = none ↔ ∀ content, .bracket content ∉ tokens := by
  obtain ⟨rest, rfl, single⟩ := colored
  cases color with
  | none => simpa [colorTokens] using single
  | some color =>
    refine iff_of_false (Option.some_ne_none color) fun none => none color.name ?_
    exact List.mem_cons_self

end IsColored

namespace NumberSettings

/-- The section of a number's sign is of the color that the number is shown in. -/
theorem exists_isColored (settings : NumberSettings) (locale : Locale) {value : Binary64}
    (number : value.isNaN = false) : ∃ part tokens,
      settings.zoneCodes[if value.isZero then 2 else if value.lt .zero then 1 else 0]? = some part ∧
      Scans part tokens ∧ IsColored (settings.preview locale value).color tokens := by
  simp only [preview, number, Bool.false_eq_true, if_false]
  by_cases zero : value.isZero = true
  · simp only [zero, if_true]
    exact ⟨_, _, rfl, settings.zero.scans_code settings.layout, settings.zero.isColored_tokens settings.layout⟩
  · by_cases negative : value.lt .zero = true
    · simp only [zero, negative, if_true]
      exact ⟨_, _, rfl, settings.negative.scans_code settings.layout,
        settings.negative.isColored_tokens settings.layout⟩
    · simp only [zero, negative]
      exact ⟨_, _, rfl, settings.positive.scans_code settings.layout,
        settings.positive.isColored_tokens settings.layout⟩

/-- In the section of its sign, a number's color is what the only tag means, which stands first; a number without
a color has a section without a tag. -/
theorem preview_color_iff (settings : NumberSettings) (locale : Locale) {value : Binary64}
    (number : value.isNaN = false) :
    ∃ sections part tokens, splitSections settings.code = .ok sections ∧
      sections[if value.isZero then 2 else if value.lt .zero then 1 else 0]? = some part ∧ Scans part tokens ∧
      (∀ content, .bracket content ∉ tokens.tail) ∧
      (∀ color, (settings.preview locale value).color = some color ↔
        ∃ content, tokens.head? = some (.bracket content) ∧ Tag.ofContent content = .color color) ∧
      ((settings.preview locale value).color = none ↔ ∀ content, .bracket content ∉ tokens) := by
  obtain ⟨part, tokens, place, scans, colored⟩ := settings.exists_isColored locale number
  exact ⟨settings.zoneCodes, part, tokens, settings.splitSections_code, place, scans, colored.bracket_notMem_tail,
    colored.eq_some_iff, colored.eq_none_iff⟩

/-- A debt without end, in the color that its mode implies, with a currency that looks like the tag of another. -/
theorem preview_color_iff_implied :
    let settings : NumberSettings := {
      layout := { currencySymbol := "[Blue]" }, negative := { color := none, mode := .parenColor } }
    let value : Binary64 := .infinite true
    value.isNaN = false ∧ (settings.preview {} value).color = some .red ∧
    ∃ sections part tokens, splitSections settings.code = .ok sections ∧ sections[1]? = some part ∧
      Scans part tokens ∧ (∀ content, .bracket content ∉ tokens.tail) ∧
      ∃ content, tokens.head? = some (.bracket content) ∧ Tag.ofContent content = .color .red := by
  intro settings value
  have number : value.isNaN = false := rfl
  have shown : (settings.preview {} value).color = some .red := rfl
  obtain ⟨sections, part, tokens, whole, place, scans, single, colored, -⟩ := settings.preview_color_iff {} number
  exact ⟨number, shown, sections, part, tokens, whole, place, scans, single, (colored .red).mp shown⟩

end NumberSettings

end CellFormat

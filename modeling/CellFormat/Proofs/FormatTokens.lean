import CellFormat.DateTime.Build
import CellFormat.Proofs.NumberText
import CellFormat.Proofs.Sections
import CellFormat.Proofs.Written

/-!
The tokens of a date and time code, part by part.
-/

namespace CellFormat

/-- What stands in the bracket of a part that counts on without end. -/
def ElapsedPart.content : ElapsedPart → String
  | hours => "h"
  | minutes => "m"
  | seconds => "s"
  | seconds2 => "ss"

theorem ElapsedPart.scans_code (part : ElapsedPart) : Scans part.code [.bracket part.content] := by
  have inside : ']' ∉ part.content.toList := by cases part <;> decide
  have code : part.code = "[" ++ part.content ++ "]" := by cases part <;> decide
  rw [code]
  exact scans_bracket inside

namespace FormatPart

/-- Whether a text that is written without quotes stays where it is: a locale inside its bracket, and a
separator of characters that stand for themselves. -/
def Plain : FormatPart → Prop
  | locale content => ']' ∉ content.toList
  | separator text => ∀ c ∈ text.toList, c = ':' ∨ c = ' '
  | calendar _ | clock _ | subSecond _ | elapsed _ | amPm _ | literal _ => True

instance : DecidablePred Plain
  | .locale _ => inferInstanceAs (Decidable (_ ∉ _))
  | .separator text => List.decidableBAll _ text.toList
  | .calendar _ | .clock _ | .subSecond _ | .elapsed _ | .amPm _ | .literal _ => .isTrue trivial

/-- The tokens that a part is written with: a bracket for what stands in one, a quoted token for a text,
and otherwise each character of the code for itself. -/
def tokens : FormatPart → List Token
  | locale content => [.bracket content]
  | elapsed part => [.bracket part.content]
  | literal text => quotes text
  | calendar part => literals part.code
  | clock part => literals part.code
  | subSecond places => literals (subSecond places).code
  | amPm style => literals style.code
  | separator text => literals text

theorem scans_code {part : FormatPart} (plain : part.Plain) : Scans part.code part.tokens := by
  cases part with
  | locale content => exact scans_bracket plain
  | calendar part =>
    exact scans_literals (by cases part <;> simp [code, CalendarPart.code, Token.Writable])
  | clock part => exact scans_literals (by cases part <;> simp [code, ClockPart.code, Token.Writable])
  | subSecond places => exact scans_literals (by simp [code, Token.Writable])
  | elapsed part => exact part.scans_code
  | amPm style => exact scans_literals (by cases style <;> simp [code, AmPmStyle.code, Token.Writable])
  | literal text => exact scans_quote text
  | separator text =>
    refine scans_literals fun c member => ?_
    rcases plain c member with rfl | rfl <;> simp [Token.Writable]

theorem sectionSep_notMem_tokens (part : FormatPart) : .sectionSep ∉ part.tokens := by
  cases part <;> simp [tokens]

end FormatPart

namespace FormatSection

/-- The tokens of a section: the brackets of its condition and its color, then its parts. -/
def tokens (block : FormatSection) : List Token :=
  (match block.condition with | some condition => [.bracket condition.text] | none => []) ++
    colorTokens block.color ++ block.parts.flatMap FormatPart.tokens

theorem scans_code {block : FormatSection} (plain : ∀ part ∈ block.parts, part.Plain) :
    Scans block.code block.tokens := by
  have parts := scans_join fun part member => FormatPart.scans_code (plain part member)
  exact ((scans_conditionTag block.condition).append (scans_colorTag block.color)).append parts

theorem isSection {block : FormatSection} (plain : ∀ part ∈ block.parts, part.Plain) :
    IsSection block.code := by
  have parts : .sectionSep ∉ block.parts.flatMap FormatPart.tokens := by
    simp [List.mem_flatMap, FormatPart.sectionSep_notMem_tokens]
  refine ⟨_, scans_code plain, ?_⟩
  unfold tokens
  cases block.condition <;> simp [parts]

end FormatSection

/-- A format whose texts without quotes stay where they are. -/
def DateTimeFormat.Plain (format : DateTimeFormat) : Prop := ∀ part ∈ format.parts, part.Plain

theorem DateTimeFormat.Plain.block {format : DateTimeFormat} (plain : format.Plain) {block : FormatSection}
    (member : block ∈ format.sections) : ∀ part ∈ block.parts, part.Plain := fun part inside =>
  plain part (List.mem_flatMap.mpr ⟨block, member, inside⟩)

namespace DateTimeFormat

theorem isSection_of_mem {format : DateTimeFormat} (plain : format.Plain) :
    ∀ code ∈ format.sections.map FormatSection.code, IsSection code := by
  intro code member
  obtain ⟨block, inside, rfl⟩ := List.mem_map.mp member
  exact FormatSection.isSection (plain.block inside)

theorem splitSections_code {format : DateTimeFormat} (nonempty : format.sections ≠ [])
    (plain : format.Plain) : splitSections format.code = .ok (format.sections.map FormatSection.code) :=
  splitSections_intercalate (by simpa using nonempty) (isSection_of_mem plain)

theorem tokenize_ok {format : DateTimeFormat} (plain : format.Plain) :
    ∃ found, tokenize format.code = .ok found := by
  obtain ⟨tokens, scans⟩ := scans_intercalate (isSection_of_mem plain)
  exact scans.tokenize_ok

end DateTimeFormat

theorem DatePlan.parts_eq {plan : DatePlan} {first second third : CalendarPart}
    (calendar : plan.calendarParts = [first, second, third]) :
    plan.parts = .calendar first :: (plan.separatorParts ++ .calendar second ::
      (plan.separatorParts ++ [.calendar third])) := by
  simp [parts, calendar, List.intercalate_cons_cons, List.intercalate_singleton]

theorem DatePlan.mem_parts {plan : DatePlan} {part : FormatPart} (member : part ∈ plan.parts) :
    part ∈ plan.separatorParts ∨ ∃ calendar, part = .calendar calendar := by
  have three : ∃ first second third, plan.calendarParts = [first, second, third] := by
    unfold calendarParts
    cases plan.order <;> exact ⟨_, _, _, rfl⟩
  obtain ⟨first, second, third, calendar⟩ := three
  simp only [parts_eq calendar, List.mem_cons, List.mem_append, List.not_mem_nil, or_false] at member
  rcases member with shown | between | shown | between | shown
  · exact .inr ⟨first, shown⟩
  · exact .inl between
  · exact .inr ⟨second, shown⟩
  · exact .inl between
  · exact .inr ⟨third, shown⟩

theorem DatePlan.plain_parts (plan : DatePlan) : ∀ part ∈ plan.parts, part.Plain := by
  intro part member
  rcases DatePlan.mem_parts member with between | ⟨calendar, rfl⟩
  · unfold separatorParts at between
    split at between
    · simp at between
    · split at between
      · rw [List.mem_singleton.mp between]
        decide
      · rw [List.mem_singleton.mp between]
        trivial
  · trivial

theorem isBareTimeText_iff {text : String} :
    isBareTimeText text ↔ text ≠ "" ∧ ∀ c ∈ text.toList, c = ':' ∨ c = ' ' := by
  simp [isBareTimeText]

theorem UnitPlan.plain_parts (plan : UnitPlan) : ∀ part ∈ plan.parts, part.Plain := by
  intro part member
  rw [parts, List.mem_append] at member
  rcases member with number | suffix
  · revert part
    fun_cases numberParts plan <;> decide
  · unfold suffixParts at suffix
    split at suffix
    · simp at suffix
    · split at suffix
      · next bare =>
        rw [List.mem_singleton.mp suffix]
        exact (isBareTimeText_iff.mp bare).2
      · rw [List.mem_singleton.mp suffix]
        trivial

theorem TimePlan.plain_parts (plan : TimePlan) : ∀ part ∈ plan.parts, part.Plain := by
  intro part member
  rw [parts, List.mem_append] at member
  rcases member with unit | half
  · obtain ⟨unitPlan, _, inside⟩ := List.mem_flatMap.mp unit
    exact unitPlan.plain_parts part inside
  · cases shown : plan.amPm with
    | none => simp [shown] at half
    | some style =>
      revert part
      cases style <;> simp only [shown] <;> decide

theorem ManualPlan.plain_parts {plan : ManualPlan}
    (inside : ∀ content ∈ plan.locale, ']' ∉ content.toList) : ∀ part ∈ plan.parts, part.Plain := by
  intro part member
  simp only [parts, List.mem_append] at member
  rcases member with ((tag | date) | between) | time
  · obtain ⟨content, named, rfl⟩ := Option.map_eq_some_iff.mp (Option.mem_toList.mp tag)
    exact inside content named
  · cases shown : plan.date with
    | none => simp [shown] at date
    | some datePlan => exact datePlan.plain_parts part (by simpa only [shown] using date)
  · split at between
    · rw [List.mem_singleton.mp between]
      decide
    · simp at between
  · cases shown : plan.time with
    | none => simp [shown] at time
    | some timePlan => exact timePlan.plain_parts part (by simpa only [shown] using time)

theorem SmartPreset.plain_format (preset : SmartPreset) : preset.format.Plain := by
  unfold DateTimeFormat.Plain
  cases preset <;> decide

namespace DateTimeSettings

theorem sections_ne_nil (settings : DateTimeSettings) : settings.format.sections ≠ [] := by
  unfold format
  cases settings.plan with
  | smart preset => cases preset <;> simp [DateTimePlan.format, SmartPreset.format]
  | manual plan => simp [DateTimePlan.format]

/-- Of all that settings put into their format, only the locale tag can keep it from being plain. -/
theorem plain_format {settings : DateTimeSettings}
    (inside : ∀ tag, localeTag? settings.localeCode = some tag → ']' ∉ tag.toList) :
    settings.format.Plain := by
  unfold format plan
  split
  · next preset _ _ => exact preset.plain_format
  · intro part member
    have parts : part ∈ settings.manualPlan.parts := by
      simpa [DateTimePlan.format, DateTimeFormat.parts] using member
    exact ManualPlan.plain_parts inside part parts

end DateTimeSettings

/-- A plain format's code has its sections for sections, and each scans to the tokens of its parts.
Settings build a plain format if their locale tag holds no closing bracket. -/
theorem DateTimeFormat.sections_and_tokens :
    (∀ format : DateTimeFormat, format.sections ≠ [] → format.Plain →
      (∃ found, tokenize format.code = .ok found) ∧
      splitSections format.code = .ok (format.sections.map FormatSection.code) ∧
      ∀ block ∈ format.sections, Scans block.code block.tokens) ∧
    ∀ settings : DateTimeSettings,
      (∀ tag, localeTag? settings.localeCode = some tag → ']' ∉ tag.toList) →
      settings.format.sections ≠ [] ∧ settings.format.Plain := by
  constructor
  · intro format nonempty plain
    exact ⟨tokenize_ok plain, splitSections_code nonempty plain,
      fun block member => FormatSection.scans_code (plain.block member)⟩
  · intro settings inside
    exact ⟨settings.sections_ne_nil, DateTimeSettings.plain_format inside⟩

theorem DateTimeFormat.sections_and_tokens_adjacent :
    let format : DateTimeFormat := ⟨[
      ⟨some ⟨.less, .nan⟩, some .blue, [.literal "a;", .literal "[\"\\", .subSecond 255, .separator ": "]⟩,
      ⟨none, none, [.locale "$-de", .literal "", .elapsed .seconds2, .amPm .lower]⟩]⟩
    let settings : DateTimeSettings := { localeCode := " [$-[fr;\"" }
    format.sections ≠ [] ∧ format.Plain ∧
      (∀ tag, localeTag? settings.localeCode = some tag → ']' ∉ tag.toList) ∧
      splitSections format.code = .ok (format.sections.map FormatSection.code) ∧
      (∀ block ∈ format.sections, Scans block.code block.tokens) ∧
      settings.format.sections ≠ [] ∧ settings.format.Plain := by
  intro format settings
  have nonempty : format.sections ≠ [] := by decide
  have plain : format.Plain := by unfold DateTimeFormat.Plain; decide
  have inside : ∀ tag, localeTag? settings.localeCode = some tag → ']' ∉ tag.toList := by
    have named : localeTag? settings.localeCode = some "$-[fr;\"" := by decide
    rintro tag found
    rw [named] at found
    cases found
    decide
  obtain ⟨_, sections, tokens⟩ := DateTimeFormat.sections_and_tokens.1 format nonempty plain
  exact ⟨nonempty, plain, inside, sections, tokens, DateTimeFormat.sections_and_tokens.2 settings inside⟩

end CellFormat

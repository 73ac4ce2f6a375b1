import CellFormat.Proofs.SampleReading
import CellFormat.Proofs.UnitHierarchy

/-!
Formats that show nothing. A format is empty if it has no part. But a locale tag is a part that shows nothing, and a
negative duration shows its sign also where there is no number behind it.
-/

namespace CellFormat

theorem join_eq_empty_iff {texts : List String} : String.join texts = "" ↔ ∀ text ∈ texts, text = "" := by
  induction texts with
  | nil => simp
  | cons text later ih => rw [String.join_cons, String.append_eq_empty_iff, ih, List.forall_mem_cons]

theorem decimalDigits_ne_nil (n : Nat) : decimalDigits n ≠ [] := Nat.toDigits_ne_nil

theorem paddedDigits_ne_nil (width n : Nat) : paddedDigits width n ≠ [] :=
  List.append_ne_nil_of_right_ne_nil _ (decimalDigits_ne_nil n)

/-- Whether a part shows some text, whatever the sample and the locale. -/
def FormatPart.IsVisible (part : FormatPart) : Prop :=
  ∀ (locale : Locale) (date : Date) (fields : TimeFields) (hasAmPm : Bool),
    part.preview locale date fields hasAmPm ≠ ""

theorem FormatPart.isVisible_of_timeUnit? {part : FormatPart} {unit : TimeUnit}
    (tells : part.timeUnit? = some unit) : part.IsVisible := by
  intro locale date fields hasAmPm nothing
  cases part with
  | clock part =>
    have digits := String.ofList_eq_empty_iff.mp nothing
    cases part <;> exact absurd digits (by first | exact decimalDigits_ne_nil _ | exact paddedDigits_ne_nil _ _)
  | elapsed part =>
    have digits := String.ofList_eq_empty_iff.mp nothing
    cases part <;> exact absurd digits (by first | exact decimalDigits_ne_nil _ | exact paddedDigits_ne_nil _ _)
  | _ => cases tells

theorem YearFormat.isVisible_part (format : YearFormat) : (FormatPart.calendar format.part).IsVisible := by
  intro locale date fields hasAmPm nothing
  cases format with
  | twoDigits => exact paddedDigits_ne_nil _ _ (String.ofList_eq_empty_iff.mp nothing)
  | fourDigits =>
    have digits : yearText date.year = [] := String.ofList_eq_empty_iff.mp nothing
    unfold yearText at digits
    split at digits
    · cases digits
    · exact paddedDigits_ne_nil _ _ digits

theorem DatePlan.exists_visible (plan : DatePlan) : ∃ part ∈ plan.parts, part.IsVisible := by
  refine ⟨.calendar plan.year.part, ?_, plan.year.isVisible_part⟩
  obtain ⟨order, separator, day, month, year⟩ := plan
  cases order <;> rw [DatePlan.parts_eq rfl] <;> simp

theorem TimeUnit.exists_unit_mem (unit : TimeUnit) :
    ∀ number ∈ unit.numbers, ∃ part ∈ number, part.timeUnit? = some unit := by
  cases unit <;> decide

theorem UnitPlan.exists_visible (plan : UnitPlan) : ∃ part ∈ plan.parts, part.IsVisible := by
  obtain ⟨part, number, tells⟩ := plan.unit.exists_unit_mem _ plan.numberParts_mem
  exact ⟨part, List.mem_append_left _ number, FormatPart.isVisible_of_timeUnit? tells⟩

theorem SmartPreset.exists_visible (preset : SmartPreset) :
    ∀ block ∈ preset.format.sections, ∃ part ∈ block.parts, part.IsVisible := by
  have numbers : ∀ block ∈ preset.format.sections, ∃ part ∈ block.parts, part.timeUnit?.isSome = true := by
    cases preset <;> decide
  intro block member
  obtain ⟨part, inside, tells⟩ := numbers block member
  obtain ⟨unit, found⟩ := Option.isSome_iff_exists.mp tells
  exact ⟨part, inside, FormatPart.isVisible_of_timeUnit? found⟩

theorem ManualPlan.exists_visible {plan : ManualPlan}
    (shows : plan.date ≠ none ∨ ∃ time ∈ plan.time, time.units ≠ []) : ∃ part ∈ plan.parts, part.IsVisible := by
  obtain ⟨locale, date, time⟩ := plan
  rcases shows with dated | ⟨time, rfl, some⟩
  · obtain ⟨date, rfl⟩ := Option.ne_none_iff_exists'.mp dated
    obtain ⟨part, inside, visible⟩ := date.exists_visible
    exact ⟨part, by simp [parts, inside], visible⟩
  · obtain ⟨unit, later, units⟩ := List.exists_cons_of_ne_nil some
    obtain ⟨part, inside, visible⟩ := unit.exists_visible
    exact ⟨part, by simp [parts, TimePlan.parts, units, inside], visible⟩

namespace DateTimeSettings

variable {settings : DateTimeSettings}

/-- Whether the settings plan no preset, no date and no time, so that a locale tag is all that can be left. -/
def IsBlank (settings : DateTimeSettings) : Prop :=
  settings.plan = .manual ⟨localeTag? settings.localeCode, none, none⟩

instance (settings : DateTimeSettings) : Decidable settings.IsBlank := inferInstanceAs (Decidable (_ = _))

/-- The section of a blank format, which has at most a locale tag. -/
theorem IsBlank.format_eq (blank : settings.IsBlank) :
    settings.format = ⟨[{ parts := ((localeTag? settings.localeCode).map FormatPart.locale).toList }]⟩ := by
  rw [format, blank]
  simp [DateTimePlan.format, ManualPlan.parts]

theorem units_ne_nil {time : TimePlan} (planned : settings.timePlan? = some time) : time.units ≠ [] := by
  unfold timePlan? at planned
  split at planned
  · split at planned
    · cases planned
    · next some =>
      cases planned
      exact some
  · cases planned

/-- Settings that are not blank show something in every section. -/
theorem exists_visible (shows : ¬settings.IsBlank) :
    ∀ block ∈ settings.format.sections, ∃ part ∈ block.parts, part.IsVisible := by
  by_cases byHand : settings.isDuration = false ∨ settings.smart = none
  · rw [format_eq_manualBlock byHand]
    intro block member
    rw [List.mem_singleton.mp member]
    refine ManualPlan.exists_visible (Classical.byContradiction fun nothing => shows ?_)
    obtain ⟨dateless, timeless⟩ := not_or.mp nothing
    have noDate : settings.datePlan? = none := not_not.mp dateless
    have noTime : settings.timePlan? = none := by
      cases planned : settings.timePlan? with
      | none => rfl
      | some time => exact absurd ⟨time, planned, units_ne_nil planned⟩ timeless
    rw [IsBlank, plan_eq_manualPlan byHand, manualPlan, noDate, noTime]
  · rw [not_or, Bool.not_eq_false] at byHand
    obtain ⟨preset, chosen⟩ := Option.ne_none_iff_exists'.mp byHand.2
    rw [format_eq_preset byHand.1 chosen]
    exact preset.exists_visible

/-- What shows nothing at all: a blank format for no negative duration. -/
theorem preview_eq_empty_iff (settings : DateTimeSettings) (locale : Locale) (sample : Sample) :
    settings.preview locale sample = "" ↔ settings.IsBlank ∧ sample.isNegative settings.mode = false := by
  obtain ⟨block, member, shown⟩ := settings.format.exists_section? settings.sections_ne_nil settings.mode sample
  have unsigned : (if sample.isNegative settings.mode then "-" else "") = "" ↔
      sample.isNegative settings.mode = false := by
    cases sample.isNegative settings.mode <;> decide
  rw [preview, DateTimeFormat.preview_of_section? shown, String.append_eq_empty_iff, unsigned, join_eq_empty_iff,
    and_comm, List.forall_mem_map]
  refine and_congr_left fun _ => ⟨fun invisible => ?_, fun blank part inside => ?_⟩
  · by_contra shows
    obtain ⟨part, inside, visible⟩ := exists_visible shows block member
    exact visible _ _ _ _ (invisible part inside)
  · rw [blank.format_eq] at member
    rw [List.mem_singleton.mp member] at inside
    obtain ⟨content, _, rfl⟩ := Option.map_eq_some_iff.mp (Option.mem_toList.mp inside)
    rfl

theorem isEmpty_iff (settings : DateTimeSettings) :
    settings.format.isEmpty = true ↔ settings.IsBlank ∧ localeTag? settings.localeCode = none := by
  constructor
  · intro empty
    have partless := List.all_eq_true.mp empty
    have blank : settings.IsBlank := by
      by_contra shows
      obtain ⟨block, member⟩ := List.exists_mem_of_ne_nil _ settings.sections_ne_nil
      obtain ⟨part, inside, _⟩ := exists_visible shows block member
      rw [List.isEmpty_iff.mp (partless block member)] at inside
      cases inside
    rw [blank.format_eq] at partless
    have tagless := List.isEmpty_iff.mp (partless _ (List.mem_singleton_self _))
    simp only [Option.toList_eq_nil_iff, Option.map_eq_none_iff] at tagless
    exact ⟨blank, tagless⟩
  · rintro ⟨blank, tagless⟩
    rw [blank.format_eq, tagless]
    rfl

theorem forall_preview_eq_empty_iff (settings : DateTimeSettings) :
    (∀ locale sample, settings.preview locale sample = "") ↔ settings.IsBlank ∧ settings.mode = .clock := by
  simp only [preview_eq_empty_iff]
  constructor
  · intro silent
    refine ⟨(silent {} {}).1, ?_⟩
    cases mode : settings.mode with
    | clock => rfl
    | duration =>
      have signed := (silent {} { duration := .ofDecimal true ⟨1, 0⟩ }).2
      rw [mode] at signed
      exact absurd signed (by decide +kernel)
  · rintro ⟨blank, clock⟩ locale sample
    rw [clock]
    exact ⟨blank, rfl⟩

/-- Settings show nothing for a sample just if they are blank and the sample is no negative duration, while their format
is empty just if they are blank and without a locale tag. So the empty formats are those that never show anything,
unless a blank clock has a tag or a blank duration has none. -/
theorem isEmpty_iff_invisible_iff (settings : DateTimeSettings) :
    (∀ locale sample, settings.preview locale sample = "" ↔
      settings.IsBlank ∧ sample.isNegative settings.mode = false) ∧
    (settings.format.isEmpty = true ↔ settings.IsBlank ∧ localeTag? settings.localeCode = none) ∧
    ((settings.format.isEmpty = true ↔ ∀ locale sample, settings.preview locale sample = "") ↔
      ¬settings.IsBlank ∨ (settings.mode = .clock ↔ localeTag? settings.localeCode = none)) := by
  refine ⟨settings.preview_eq_empty_iff, settings.isEmpty_iff, ?_⟩
  rw [isEmpty_iff, forall_preview_eq_empty_iff]
  tauto

/-- An empty format that shows a sign, and one that is not empty and shows nothing. -/
theorem empty_format_shows_a_sign :
    let settings : DateTimeSettings := { mode := .duration, useDate := false, useTime := false }
    let sample : Sample := { duration := .ofDecimal true ⟨5, 0⟩ }
    let tagged : DateTimeSettings := { useDate := false, useTime := false, localeCode := "en-US" }
    (settings.format.isEmpty = true ∧ settings.preview {} sample = "-" ∧
      ¬(settings.format.isEmpty = true ↔ ∀ locale sample, settings.preview locale sample = "")) ∧
    tagged.format.isEmpty = false ∧ ∀ locale sample, tagged.preview locale sample = "" := by
  intro settings sample tagged
  have empty : settings.format.isEmpty = true := by decide
  have signed : settings.preview {} sample = "-" := by decide +kernel
  have blank : tagged.IsBlank := by decide
  refine ⟨⟨empty, signed, fun same => ?_⟩, by decide, tagged.forall_preview_eq_empty_iff.mpr ⟨blank, rfl⟩⟩
  rw [same.mp empty {} sample] at signed
  exact absurd signed (by decide)

end DateTimeSettings

end CellFormat

import CellFormat.Proofs.DateTimeEdits
import CellFormat.Proofs.EmptyFormats

/-!
Settings that edits have led to. The suffixes are those of the mode, each unit is hidden or has two digits, and what
no edit chooses is as it was at first. A preset that was chosen has taken the date away and, from a clock, all units,
so that a duration shows the preset and a clock nothing.
-/

namespace CellFormat

namespace DateTimeSettings

variable {settings : DateTimeSettings}

theorem withLeadingUnit_of_clock (clock : settings.mode = .clock) (unit : TimeUnit) :
    settings.withLeadingUnit unit = { settings with leadingUnit := unit } := by
  have counts : DateTimeSettings.isDuration { settings with leadingUnit := unit } = false := isDuration_of_clock clock
  simp only [withLeadingUnit, counts, Bool.false_eq_true, if_false]

/-- What edits keep between what they choose: the mode has its suffixes, a preset has no date beside it, and on a clock
no unit either, and units that are not hidden have two digits. -/
structure Consistent (settings : DateTimeSettings) : Prop where
  undated : settings.smart ≠ none → settings.useDate = false
  unitless : settings.mode = .clock → settings.smart ≠ none → ∀ unit, settings.unitStyle? unit = none
  clockSuffixes : settings.mode = .clock → settings.hourSuffix = ":" ∧ settings.minuteSuffix = ""
  durationSuffixes : settings.mode = .duration → settings.hourSuffix = "h " ∧ settings.minuteSuffix = "m "
  hours : settings.hourFormat = .hidden ∨ settings.hourFormat = .padded
  minutes : settings.minuteFormat = .hidden ∨ settings.minuteFormat = .padded
  seconds : settings.secondFormat = .hidden ∨ settings.secondFormat = .padded

namespace Consistent

variable (consistent : settings.Consistent)
include consistent

theorem withMode (mode : DateTimeMode) : (settings.withMode mode).Consistent := by
  cases mode with
  | clock =>
    exact { consistent with
      undated := fun chosen => absurd rfl chosen
      unitless := fun _ chosen => absurd rfl chosen
      clockSuffixes := fun _ => ⟨rfl, rfl⟩
      durationSuffixes := nofun }
  | duration =>
    exact { consistent with
      unitless := nofun
      clockSuffixes := nofun
      durationSuffixes := fun _ => ⟨rfl, rfl⟩ }

/-- A duration shows its leading unit with two digits and hides the longer ones. -/
theorem withLeadingUnit (unit : TimeUnit) : (settings.withLeadingUnit unit).Consistent := by
  cases mode : settings.mode with
  | clock =>
    rw [withLeadingUnit_of_clock mode]
    exact { consistent with }
  | duration =>
    have counts : DateTimeSettings.isDuration { settings with leadingUnit := unit } = true := isDuration_of_mode mode
    have noClock : settings.mode ≠ .clock := by simp [mode]
    simp only [DateTimeSettings.withLeadingUnit, counts, if_true]
    cases unit with
    | hours =>
      exact { consistent with
        unitless := fun clock => absurd clock noClock
        hours := .inr (by rcases consistent.hours with style | style <;> simp [style]) }
    | minutes =>
      exact { consistent with
        undated := fun _ => rfl
        unitless := fun clock => absurd clock noClock
        hours := .inl rfl
        minutes := .inr (by rcases consistent.minutes with style | style <;> simp [style]) }
    | seconds =>
      exact { consistent with
        undated := fun _ => rfl
        unitless := fun clock => absurd clock noClock
        hours := .inl rfl
        minutes := .inl rfl
        seconds := .inr (by rcases consistent.seconds with style | style <;> simp [style]) }

theorem withSmart (preset : Option SmartPreset) : (settings.withSmart preset).Consistent := by
  cases preset with
  | none =>
    exact { consistent with
      undated := fun chosen => absurd rfl chosen
      unitless := fun _ chosen => absurd rfl chosen }
  | some preset =>
    exact { consistent with
      undated := fun _ => rfl
      unitless := fun _ _ unit => by cases unit <;> rfl
      hours := .inl rfl
      minutes := .inl rfl
      seconds := .inl rfl }

theorem edit (edit : DateTimeEdit) : (settings.edit edit).Consistent := by
  cases edit with
  | mode mode => exact consistent.withMode mode
  | leadingUnit unit => exact consistent.withLeadingUnit unit
  | smart preset => exact consistent.withSmart preset

end Consistent

theorem consistent_initial : Consistent {} where
  undated chosen := absurd rfl chosen
  unitless _ chosen := absurd rfl chosen
  clockSuffixes _ := ⟨rfl, rfl⟩
  durationSuffixes := nofun
  hours := .inr rfl
  minutes := .inr rfl
  seconds := .inl rfl

theorem Reached.consistent (reached : Reached settings) : settings.Consistent := by
  induction reached with
  | initial => exact consistent_initial
  | edit edit _ ih => exact ih.edit edit

/-- Settings that want no date have none in their format, whatever they count. -/
theorem hasCalendarParts_of_undated (undated : settings.useDate = false) :
    settings.format.hasCalendarParts = false := by
  rw [Bool.eq_false_iff, ne_eq, hasCalendarParts_iff, datePlan?_isSome_iff, undated]
  exact fun dated => Bool.false_ne_true dated.1

/-- A clock that has no date, no unit and no locale shows nothing. -/
theorem code_eq_empty (clock : settings.mode = .clock) (undated : settings.useDate = false)
    (unitless : ∀ unit, settings.unitStyle? unit = none) (untagged : settings.localeCode = "") :
    settings.code = "" := by
  have dateless : settings.datePlan? = none := by simp [datePlan?, undated]
  have timeless : settings.timePlan? = none := by simp [timePlan?, TimeUnit.all, unitPlan?, unitless]
  have tagless : localeTag? settings.localeCode = none := by rw [untagged]; decide
  have blank : settings.IsBlank := by
    rw [IsBlank, plan_eq_manualPlan (.inl (isDuration_of_clock clock)), manualPlan, dateless, timeless]
  rw [code, blank.format_eq, tagless]
  rfl

/-- However settings were come by. A preset leaves them no date, in either mode, and their code is that of the preset
for a duration and empty for a clock. The suffixes are those of the mode, a unit that is not hidden has two digits,
and all else is as in the initial settings. -/
theorem Reached.edited (reached : Reached settings) :
    (∀ preset, settings.smart = some preset → settings.useDate = false ∧
      (∀ mode, DateTimeFormat.hasCalendarParts (DateTimeSettings.format { settings with mode }) = false) ∧
      settings.code = match settings.mode with | .clock => "" | .duration => preset.format.code) ∧
    (settings.mode = .clock → settings.hourSuffix = ":" ∧ settings.minuteSuffix = "") ∧
    (settings.mode = .duration → settings.hourSuffix = "h " ∧ settings.minuteSuffix = "m ") ∧
    (settings.hourFormat = .hidden ∨ settings.hourFormat = .padded) ∧
    (settings.minuteFormat = .hidden ∨ settings.minuteFormat = .padded) ∧
    (settings.secondFormat = .hidden ∨ settings.secondFormat = .padded) ∧
    settings = { ({} : DateTimeSettings) with
      mode := settings.mode, useDate := settings.useDate, leadingUnit := settings.leadingUnit, smart := settings.smart
      hourFormat := settings.hourFormat, minuteFormat := settings.minuteFormat, secondFormat := settings.secondFormat
      hourSuffix := settings.hourSuffix, minuteSuffix := settings.minuteSuffix } := by
  have consistent := reached.consistent
  have unedited := reached.unedited_eq
  refine ⟨fun preset chosen => ?_, consistent.clockSuffixes, consistent.durationSuffixes, consistent.hours,
    consistent.minutes, consistent.seconds, ?_⟩
  · have active : settings.smart ≠ none := by simp [chosen]
    have undated := consistent.undated active
    refine ⟨undated, fun mode => hasCalendarParts_of_undated undated, ?_⟩
    cases mode : settings.mode with
    | clock =>
      exact code_eq_empty mode undated (consistent.unitless mode active)
        (congrArg DateTimeSettings.localeCode unedited)
    | duration => rw [code, format_eq_preset (isDuration_of_mode mode) chosen]
  · rw [← unedited]
    rfl

/-- A preset that was chosen on a clock, for which hours are shown again as a duration. -/
theorem Reached.edited_again :
    let settings := ((({} : DateTimeSettings).withSmart (some .timer)).withMode .duration).withLeadingUnit .hours
    Reached settings ∧ settings.hourFormat = .padded ∧ settings.useDate = false ∧
    settings.code = "[<0.0416667][Blue]mm:ss;[h]:mm:ss" ∧
    DateTimeFormat.hasCalendarParts (DateTimeSettings.format { settings with mode := .clock }) = false ∧
    settings.hourSuffix = "h " ∧ settings.minuteSuffix = "m " := by
  intro settings
  have reached : Reached settings :=
    .edit (.leadingUnit .hours) (.edit (.mode .duration) (.edit (.smart (some .timer)) .initial))
  obtain ⟨presets, -, suffixes, -⟩ := reached.edited
  obtain ⟨undated, dateless, code⟩ := presets .timer rfl
  exact ⟨reached, rfl, undated, code.trans (by decide +kernel), dateless .clock, suffixes rfl⟩

end DateTimeSettings

end CellFormat

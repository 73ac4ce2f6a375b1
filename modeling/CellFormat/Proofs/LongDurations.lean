import CellFormat.Proofs.DurationPreview
import CellFormat.Proofs.NumberReading
import CellFormat.Proofs.RoundingGrid

/-!
How long a duration may be to be shown in full. Seconds are counted in a word, and what does not fit in one is shown
as the largest word.
-/

namespace CellFormat

theorem Sample.isNegative_duration {sample : Sample} (finite : sample.duration.isFinite = true) :
    sample.isNegative .duration = decide (sample.duration.toRat < 0) := by
  rw [isNegative, finite, Bool.true_and, Bool.eq_iff_iff, Binary64.lt_zero_iff finite, decide_eq_true_iff]

namespace DateTimeSettings

variable {settings : DateTimeSettings}

theorem precision_of_no_centis (without : ∀ plan ∈ settings.shownUnits, plan.style ≠ .paddedCentis) :
    settings.timeBlock.precision = 0 := by
  refine FormatSection.precision_eq_zero fun part member => ?_
  rcases List.mem_append.mp member with before | behind
  · exact (settings.untimed_openingParts part before).2.1
  · obtain ⟨plan, within, inside⟩ := List.mem_flatMap.mp behind
    exact UnitPlan.subSecond?_eq_none (without plan within) inside

section Seconds

variable (duration : settings.mode = .duration) (leading : settings.leadingUnit = .seconds)
  (plain : settings.secondFormat = .plain)

include duration leading plain

theorem shownUnits_of_seconds : settings.shownUnits = [⟨.seconds, .plain, true, settings.secondSuffix⟩] := by
  have leads : settings.isLeading .seconds = true := isLeading_iff.mpr ⟨duration, leading.symm⟩
  simp [shownUnits, modeUnits, duration, leading, TimeUnit.downwards, formattedUnit?, plain, leads]

/-- Plain seconds show the whole part of a duration, or the largest word in its place. -/
theorem preview_eq_seconds (byHand : settings.smart = none) (timed : settings.useTime = true)
    (dateless : settings.useDate = false) (bare : settings.secondSuffix = "") {sample : Sample}
    (finite : sample.duration.isFinite = true) (locale : Locale) :
    settings.preview locale sample = (if sample.duration.toRat < 0 then "-" else "") ++
      String.ofList (decimalDigits (min sample.duration.wholeMagnitude Binary64.largestWord)) := by
  have counts := isDuration_of_mode duration
  have units := shownUnits_of_seconds duration leading plain
  have noDate : settings.datePlan? = none := by simp [datePlan?, dateless]
  have noHalf : settings.amPm? = none := by simp [amPm?, counts]
  have precision : settings.timeBlock.precision = 0 := by
    refine precision_of_no_centis fun plan member => ?_
    rw [units, List.mem_singleton] at member
    rw [member]
    exact UnitStyle.noConfusion
  have seconds : sample.seconds settings.mode = sample.duration.abs := by
    rw [duration]
    exact if_pos finite
  have ticks : settings.timeBlock.ticks sample.duration.abs =
      min sample.duration.wholeMagnitude Binary64.largestWord := by
    rw [FormatSection.ticks, precision, if_neg (Nat.lt_irrefl 0)]
    cases value : sample.duration with
    | nan | infinite => rw [value] at finite; cases finite
    | finite negative rank => exact (Binary64.isNear_truncate rank).toWord_eq
  have numbers : ∀ plan ∈ settings.shownUnits,
      (settings.timeBlock.timeFields .duration sample.duration.abs).number plan.unit =
        min sample.duration.wholeMagnitude Binary64.largestWord := by
    intro plan member
    have one : settings.timeBlock.ticksPerSecond = 1 := by rw [FormatSection.ticksPerSecond, precision]
    rw [number_of_duration duration member, ticks, one, Nat.div_one]
    rw [units, List.mem_singleton] at member
    rw [member, TimeUnit.number_seconds, if_pos leading.symm]
  have counting : settings.timeBlock.timeFields settings.mode (sample.seconds settings.mode) =
      settings.timeBlock.timeFields .duration sample.duration.abs := by rw [seconds, duration]
  have single := format_eq_timeBlock (plan_eq_manualPlan (.inr byHand)) timed noHalf (.inl noDate)
  rw [preview_eq_unitsText single locale counting (fun _ => _) numbers, duration, Sample.isNegative_duration finite,
    dateText, noDate, String.empty_append, unitsText, units]
  simp only [decide_eq_true_eq, List.map_cons, List.map_nil, bare, String.append_empty, UnitStyle.text]
  rfl

end Seconds

/-- A duration in plain seconds is shown in full just if its whole part is a word. -/
theorem preview_seconds (duration : settings.mode = .duration) (leading : settings.leadingUnit = .seconds)
    (plain : settings.secondFormat = .plain) (byHand : settings.smart = none) (timed : settings.useTime = true)
    (dateless : settings.useDate = false) (bare : settings.secondSuffix = "") {sample : Sample}
    (finite : sample.duration.isFinite = true) (locale : Locale) :
    let sign := if sample.duration.toRat < 0 then "-" else ""
    let whole := sample.duration.wholeMagnitude
    settings.preview locale sample =
      sign ++ String.ofList (decimalDigits (min whole Binary64.largestWord)) ∧
    (settings.preview locale sample = sign ++ String.ofList (decimalDigits whole) ↔
      sample.duration.magnitude < (2 ^ 64 : Nat)) := by
  intro sign whole
  have shown := preview_eq_seconds duration leading plain byHand timed dateless bare finite locale
  refine ⟨shown, ?_⟩
  have word : Binary64.largestWord + 1 = 2 ^ 64 := rfl
  rw [shown, ← Binary64.wholeMagnitude_lt_iff, ← word, Nat.lt_succ_iff, ← min_eq_left_iff]
  constructor
  · intro same
    have digits := String.ofList_inj.mp ((String.append_right_inj sign).mp same)
    rw [← digitsValue_decimalDigits (min _ _), digits, digitsValue_decimalDigits]
  · intro same
    rw [same]

/-- The longest whole number of seconds below the first that is not shown in full, with its sign. -/
theorem preview_seconds_long :
    let settings : DateTimeSettings := {
      mode := .duration, useDate := false, leadingUnit := .seconds, secondFormat := .plain }
    let sample : Sample := { duration := .ofDecimal true ⟨18446744073709549568, 0⟩ }
    (settings.mode = .duration ∧ settings.leadingUnit = .seconds ∧ settings.secondFormat = .plain ∧
      settings.smart = none ∧ settings.useTime = true ∧ settings.useDate = false ∧ settings.secondSuffix = "") ∧
    sample.duration.isFinite = true ∧ settings.preview {} sample = "-18446744073709549568" := by
  intro settings sample
  have finite : sample.duration.isFinite = true := by decide +kernel
  obtain ⟨_, full⟩ := settings.preview_seconds rfl rfl rfl rfl rfl rfl rfl finite {}
  have below : sample.duration.magnitude < (2 ^ 64 : Nat) := by decide +kernel
  exact ⟨⟨rfl, rfl, rfl, rfl, rfl, rfl, rfl⟩, finite, (full.mpr below).trans (by decide +kernel)⟩

/-- More seconds than fit in a word are shown as the largest word. -/
theorem long_duration_saturates :
    let settings : DateTimeSettings := {
      mode := .duration, useDate := false, leadingUnit := .seconds, secondFormat := .plain }
    let sample : Sample := { duration := .ofDecimal false ⟨1, 20⟩ }
    sample.duration.isFinite = true ∧ sample.duration.wholeMagnitude = 10 ^ 20 ∧
    settings.preview {} sample = "18446744073709551615" := by
  decide +kernel

end DateTimeSettings

end CellFormat

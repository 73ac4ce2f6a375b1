import CellFormat.Proofs.RoundingError
import CellFormat.Proofs.TimePreview

/-!
The preview of a duration of whole seconds. The unit that leads takes in all longer ones and each other unit
what is left below the next longer, so that the numbers of all units come to the duration again.
-/

namespace CellFormat

namespace TimeUnit

/-- The numbers of the leading unit and of all below it come to the seconds again. -/
theorem sum_number (leading : TimeUnit) (seconds : Nat) :
    (leading.downwards.map fun unit => unit.number leading seconds * unit.length).sum = seconds := by
  cases leading <;> simp [downwards, length, number] <;> omega

end TimeUnit

namespace FormatSection

/-- Whole seconds are counted without rounding. -/
theorem ticks_of_whole {block : FormatSection} (precision : block.precision = 0 ∨ block.precision = 2)
    {seconds : Binary64} {n : Nat} (near : seconds.IsNear n 0) (bound : n < 2 ^ 46) :
    block.ticks seconds = n * block.ticksPerSecond := by
  unfold ticks ticksPerSecond
  rcases precision with precision | precision
  · rw [precision, if_neg (Nat.lt_irrefl 0), near.toWord_truncate (by omega)]
    exact (Nat.mul_one n).symm
  · have hundred : Nat.pow 10 2 = 100 := rfl
    have product := near.mul_natCast (Binary64.isNear_natCast (n := 100) (by decide)) (by omega)
    rw [precision, if_pos two_pos, hundred]
    exact product.toWord_round_natCast (by omega)

end FormatSection

namespace DateTimeSettings

variable {settings : DateTimeSettings}

theorem mem_downwards_of_shown (duration : settings.mode = .duration) {plan : UnitPlan}
    (member : plan ∈ settings.shownUnits) : plan.unit ∈ settings.leadingUnit.downwards := by
  have within := (mem_shownUnits.mp member).1
  rwa [modeUnits_of_duration duration] at within

/-- The units of a duration show their numbers, whether or not the leading one is shown itself. -/
theorem number_of_duration (duration : settings.mode = .duration) {plan : UnitPlan}
    (member : plan ∈ settings.shownUnits) (seconds : Binary64) :
    (settings.timeBlock.timeFields .duration seconds).number plan.unit = plan.unit.number settings.leadingUnit
      (settings.timeBlock.ticks seconds / settings.timeBlock.ticksPerSecond) := by
  have below := TimeUnit.mem_downwards.mp (mem_downwards_of_shown duration member)
  rcases elapsed?_timeSection settings.untimed_openingParts settings.shownUnits with
    ⟨counting, found, leader, within, accumulating, same⟩ | ⟨found, never⟩
  · rw [accumulating_of_shown within, isLeading_iff] at accumulating
    have leading : counting.unit = settings.leadingUnit := same.trans accumulating.2
    rw [← leading] at below ⊢
    exact FormatSection.number_of_elapsed found below .duration seconds
  · have follows : plan.unit ≠ settings.leadingUnit := by
      intro leading
      have steady := never plan member
      rw [accumulating_of_shown member, isLeading_iff.mpr ⟨duration, leading⟩] at steady
      cases steady
    have short : plan.unit ≠ .hours := by
      intro hours
      rw [hours] at below follows
      cases leading : settings.leadingUnit with
      | hours => exact follows leading.symm
      | minutes | seconds => rw [leading] at below; cases below
    exact FormatSection.number_of_not_elapsed found short follows .duration seconds

/-- The shown numbers come to the seconds again if no unit from the leading one downwards is hidden. -/
theorem sum_number_shownUnits (duration : settings.mode = .duration)
    (every : ∀ unit ∈ settings.leadingUnit.downwards, settings.Displays unit) (seconds : Nat) :
    (settings.shownUnits.map fun plan => plan.unit.number settings.leadingUnit seconds * plan.unit.length).sum =
      seconds := by
  have units := modeUnits_of_duration duration
  have total := TimeUnit.sum_number settings.leadingUnit seconds
  rwa [← units, ← map_unit_shownUnits (units ▸ every), List.map_map] at total

/-- A duration shows a sign and then the units from the leading one downwards that are not hidden, which come to
the duration again where none of them is. -/
theorem preview_duration (duration : settings.mode = .duration) (byHand : settings.smart = none)
    (dateless : settings.useDate = false) (timed : settings.useTime = true) {sample : Sample}
    (finite : sample.duration.isFinite = true) {n : Int} (whole : sample.duration.toRat = n)
    (bound : n.natAbs < 2 ^ 46) (locale : Locale) :
    let number := fun unit : TimeUnit => unit.number settings.leadingUnit n.natAbs
    settings.preview locale sample = (if n < 0 then "-" else "") ++ settings.unitsText locale number 0 ∧
    (∀ plan ∈ settings.shownUnits, plan.unit ∈ settings.leadingUnit.downwards) ∧
    ((∀ unit ∈ settings.leadingUnit.downwards, settings.Displays unit) →
      (settings.shownUnits.map fun plan => number plan.unit * plan.unit.length).sum = n.natAbs) := by
  intro number
  have counts := isDuration_of_mode duration
  refine ⟨?_, fun plan member => mem_downwards_of_shown duration member, ?_⟩
  · have manual : settings.plan = .manual settings.manualPlan := by
      unfold plan
      rw [counts, byHand]
    have noDate : settings.datePlan? = none := by simp [datePlan?, dateless]
    have noHalf : settings.amPm? = none := by simp [amPm?, counts]
    have seconds : sample.seconds settings.mode = sample.duration.abs := by
      rw [duration]
      exact if_pos finite
    have sign : sample.isNegative settings.mode = decide (n < 0) := by
      rw [duration, Sample.isNegative, finite, Bool.true_and, Bool.eq_iff_iff, Binary64.lt_zero_iff finite, whole,
        decide_eq_true_iff, Int.cast_lt_zero]
    have counted : settings.timeBlock.ticks sample.duration.abs =
        n.natAbs * settings.timeBlock.ticksPerSecond :=
      FormatSection.ticks_of_whole (precision_timeSection settings.untimed_openingParts _)
        (Binary64.isNear_abs finite whole) bound
    have positive : 0 < settings.timeBlock.ticksPerSecond := Nat.pow_pos (by decide)
    have numbers : ∀ plan ∈ settings.shownUnits,
        (settings.timeBlock.timeFields .duration sample.duration.abs).number plan.unit = number plan.unit := by
      intro plan member
      rw [number_of_duration duration member, counted, Nat.mul_div_cancel _ positive]
    have fraction : (settings.timeBlock.timeFields .duration sample.duration.abs).fraction = 0 := by
      show settings.timeBlock.ticks _ % settings.timeBlock.ticksPerSecond = 0
      rw [counted, Nat.mul_mod_left]
    have counting : settings.timeBlock.timeFields settings.mode (sample.seconds settings.mode) =
        settings.timeBlock.timeFields .duration sample.duration.abs := by rw [seconds, duration]
    have single := format_eq_timeBlock manual timed noHalf (.inl noDate)
    rw [preview_eq_unitsText single locale counting number numbers, sign, fraction, dateText, noDate,
      String.empty_append]
    simp only [decide_eq_true_eq]
  · exact fun every => sum_number_shownUnits duration every n.natAbs

/-- A duration below zero, in hours, minutes and seconds with decimals, led by hours or by minutes. -/
theorem preview_duration_negative :
    let settings : DateTimeSettings := {
      mode := .duration, useDate := false, hourSuffix := "h ", minuteSuffix := "m ", secondSuffix := "s"
      secondFormat := .paddedCentis }
    let inMinutes := { settings with leadingUnit := .minutes }
    let sample : Sample := { duration := .ofDecimal true ⟨3725, 0⟩ }
    (settings.mode = .duration ∧ settings.smart = none ∧ settings.useDate = false ∧ settings.useTime = true) ∧
    sample.duration.isFinite = true ∧ sample.duration.toRat = (-3725 : Int) ∧
    (∀ unit ∈ settings.leadingUnit.downwards, settings.Displays unit) ∧
    settings.preview {} sample = "-1h 02m 05.00s" ∧ inMinutes.preview {} sample = "-62m 05.00s" ∧
    (settings.shownUnits.map fun plan => plan.unit.number settings.leadingUnit 3725 * plan.unit.length).sum = 3725 := by
  intro settings inMinutes sample
  have finite : sample.duration.isFinite = true := by decide +kernel
  have whole : sample.duration.toRat = (-3725 : Int) := by decide +kernel
  have every : ∀ unit ∈ settings.leadingUnit.downwards, settings.Displays unit := by decide
  obtain ⟨shown, _, recombine⟩ := settings.preview_duration rfl rfl rfl rfl finite whole (by decide) {}
  obtain ⟨minutes, _⟩ := inMinutes.preview_duration rfl rfl rfl rfl finite whole (by decide) {}
  exact ⟨⟨rfl, rfl, rfl, rfl⟩, finite, whole, every, shown.trans (by decide), minutes.trans (by decide),
    recombine every⟩

end DateTimeSettings

end CellFormat

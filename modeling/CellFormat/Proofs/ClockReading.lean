import CellFormat.Proofs.ClockPreview
import CellFormat.Proofs.RoundingGrid
import CellFormat.Proofs.UnitHierarchy

/-!
What a clock without hundredths shows: the hour, the minute and the second of the sample. Its nanoseconds are added
to the seconds and cut off again, and neither the sum nor the quotient is rounded past the second. On a dial of
twelve hours the half of the day is shown as well.
-/

namespace CellFormat

namespace ClockTime

/-- The number that a unit has on a dial of 24 hours. -/
def number (time : ClockTime) : TimeUnit → Nat
  | .hours => time.hour
  | .minutes => time.minute
  | .seconds => time.second

/-- The number that a unit has on a dial of 24 or of twelve hours. -/
def reading (time : ClockTime) (twelveHours : Bool) (unit : TimeUnit) : Nat :=
  match unit, twelveHours with
  | .hours, true => if time.hour = 0 then 12 else if 12 < time.hour then time.hour - 12 else time.hour
  | _, _ => time.number unit

theorem hourOfTwelve_hour (time : ClockTime) : hourOfTwelve time.hour = time.reading true .hours := by
  unfold hourOfTwelve reading
  grind

theorem number_secondsFromMidnight (time : ClockTime) (unit : TimeUnit) :
    unit.number .hours (time.secondsFromMidnight % 86400) = time.number unit := by
  have hour := time.hour_lt
  have minute := time.minute_lt
  have second := time.second_lt
  unfold secondsFromMidnight
  cases unit <;> simp only [TimeUnit.number, TimeUnit.length, number, reduceCtorEq, if_true, if_false] <;> omega

variable {time : ClockTime} (regular : time.nano < 10 ^ 9)

include regular

theorem secondsFromMidnight_le : time.secondsFromMidnight ≤ time.seconds.magnitude := by
  have small : time.secondsFromMidnight < 2 ^ 53 := time.secondsFromMidnight_lt.trans (by norm_num)
  obtain ⟨rank, found, _⟩ := isNear_seconds regular
  have finite : time.seconds.isFinite = true := by
    rw [found]
    rfl
  exact (Binary64.isNear_ofNat small).natCast_le_add (isNear_decimals regular) small.le finite

theorem lt_secondsFromMidnight_succ : time.seconds.magnitude < (time.secondsFromMidnight + 1 : Nat) := by
  obtain ⟨_, _, near⟩ := isNear_seconds regular
  have most : (time.nano : Rat) ≤ 999999999 := by exact_mod_cast Nat.le_pred_of_lt regular
  have fraction : (time.nano : Rat) / (1000000000 : Nat) ≤ 999999999 / (1000000000 : Nat) := by gcongr
  have upper := (abs_le.mp near).2
  push_cast at *
  norm_num at *
  linarith

/-- The second is not lost as the nanoseconds are cut off, and no other one is reached by rounding. -/
theorem toWord_truncate_seconds : time.seconds.truncate.toWord = time.secondsFromMidnight := by
  have lower := secondsFromMidnight_le regular
  have upper := lt_secondsFromMidnight_succ regular
  obtain ⟨rank, found, _⟩ := isNear_seconds regular
  rw [← Binary64.wholeMagnitude_lt_iff] at upper
  rw [← not_lt, ← Binary64.wholeMagnitude_lt_iff] at lower
  have whole : time.seconds.wholeMagnitude = time.secondsFromMidnight := by omega
  have word : time.secondsFromMidnight ≤ Binary64.largestWord :=
    time.secondsFromMidnight_lt.le.trans (by decide)
  have near := Binary64.isNear_truncate rank
  rw [← found, whole] at near
  rw [near.toWord_eq, Nat.min_eq_left word]

end ClockTime

/-- The numbers with the hour as it is on a dial of twelve hours, if the clock has one. -/
def TimeFields.onDial (fields : TimeFields) (twelveHours : Bool) : TimeFields :=
  if twelveHours then { fields with hours := hourOfTwelve fields.hours } else fields

theorem TimeFields.number_onDial {fields : TimeFields} {time : ClockTime}
    (numbers : ∀ unit, fields.number unit = time.number unit) (twelveHours : Bool) (unit : TimeUnit) :
    (fields.onDial twelveHours).number unit = time.reading twelveHours unit := by
  cases unit with
  | hours =>
    cases twelveHours with
    | false => exact numbers .hours
    | true => exact (congrArg hourOfTwelve (numbers .hours)).trans time.hourOfTwelve_hour
  | minutes => cases twelveHours <;> exact numbers .minutes
  | seconds => cases twelveHours <;> exact numbers .seconds

/-- Beside the half of the day all but the parts that count on read the hour on the dial. -/
theorem FormatPart.preview_onDial {part : FormatPart} (within : part.elapsed? = none) (number : part.isAmPm = false)
    (locale : Locale) (date : Date) (fields : TimeFields) (twelveHours : Bool) :
    part.preview locale date fields twelveHours = part.preview locale date (fields.onDial twelveHours) false := by
  cases twelveHours with
  | false => rfl
  | true =>
    cases part with
    | clock part => cases part <;> rfl
    | elapsed => cases within
    | amPm => cases number
    | _ => rfl

/-- The mark of a half of the day. -/
def AmPmStyle.mark (morning : Bool) : AmPmStyle → String
  | upper => if morning then "AM" else "PM"
  | lower => if morning then "am" else "pm"
  | shortUpper => if morning then "A" else "P"
  | shortLower => if morning then "a" else "p"

theorem TimeFields.amPmText_eq (fields : TimeFields) (style : AmPmStyle) :
    fields.amPmText {} style = style.mark (decide (fields.hours < 12)) := by
  by_cases morning : fields.hours < 12
  · have marker : ¬12 ≤ fields.hours := by omega
    cases style <;> simp only [amPmText, AmPmStyle.mark, morning, marker] <;> decide
  · have marker : 12 ≤ fields.hours := by omega
    cases style <;> simp only [amPmText, AmPmStyle.mark, morning, marker] <;> decide

namespace DateTimeSettings

/-- The units that no format hides. -/
def displayedUnits (settings : DateTimeSettings) : List UnitPlan :=
  [TimeUnit.hours, .minutes, .seconds].filterMap settings.formattedUnit?

/-- A unit of a time of day, filled up to two digits if it is padded, and its suffix. -/
def unitReading (settings : DateTimeSettings) (time : ClockTime) (plan : UnitPlan) : String :=
  let number := time.reading settings.twelveHours plan.unit
  String.ofList (if plan.style = .padded then paddedDigits 2 number else decimalDigits number) ++ plan.suffix

/-- The units of a time of day, and the half of the day behind them on a dial of twelve hours. -/
def timeReading (settings : DateTimeSettings) (time : ClockTime) : String :=
  String.join (settings.displayedUnits.map (settings.unitReading time)) ++
    if settings.twelveHours = true ∧ settings.displayedUnits ≠ [] then
      " " ++ settings.amPm.mark (decide (time.hour < 12))
    else ""

variable {settings : DateTimeSettings}

theorem hasAmPm_manualBlock (settings : DateTimeSettings) :
    settings.manualBlock.hasAmPm = settings.shownTime.amPm.isSome := by
  have opening : settings.manualPlan.opening.any FormatPart.isAmPm = false :=
    List.any_eq_false.mpr fun part member => Bool.eq_false_iff.mp (ManualPlan.untimed_of_mem_opening member).2.2
  have units : (settings.shownTime.units.flatMap UnitPlan.parts).any FormatPart.isAmPm = false := by
    refine List.any_eq_false.mpr fun part member => ?_
    obtain ⟨_, _, inside⟩ := List.mem_flatMap.mp member
    exact Bool.eq_false_iff.mp (UnitPlan.isAmPm_of_mem inside)
  rw [FormatSection.hasAmPm, manualBlock, parts_manualPlan, List.any_append, List.any_append, opening, units]
  cases settings.shownTime.amPm <;> rfl

theorem style_ne_paddedCentis (without : settings.secondFormat ≠ .paddedCentis) {plan : UnitPlan}
    (member : plan ∈ settings.shownUnits) : plan.style ≠ .paddedCentis :=
  fun centis => without (centis_of_formatted (mem_shownUnits.mp member).2 centis).2

theorem precision_manualBlock (without : settings.secondFormat ≠ .paddedCentis) :
    settings.manualBlock.precision = 0 := by
  refine FormatSection.precision_eq_zero fun part member => ?_
  rcases mem_manualPlan member with before | ⟨_, shown, within, inside⟩ | half
  · exact (ManualPlan.untimed_of_mem_opening before).2.1
  · exact UnitPlan.subSecond?_eq_none (style_ne_paddedCentis without within) inside
  · rcases TimePlan.mem_halfParts half with rfl | ⟨_, rfl⟩ <;> rfl

section Clock

variable (clock : settings.mode = .clock)

include clock

theorem shownUnits_of_clock : settings.shownUnits = settings.displayedUnits := by
  rw [shownUnits, modeUnits_of_clock clock, displayedUnits]

/-- What a clock reads does not depend on the settings of a duration. -/
theorem timeReading_of_clock (smart : Option SmartPreset) (leadingUnit : TimeUnit) (time : ClockTime) :
    { settings with smart, leadingUnit }.timeReading time = settings.timeReading time := by
  have leads : ∀ unit, DateTimeSettings.isLeading { settings with smart, leadingUnit } unit =
      settings.isLeading unit := fun unit =>
    (@isLeading_of_clock { settings with smart, leadingUnit } clock unit).trans (isLeading_of_clock clock unit).symm
  have units : DateTimeSettings.displayedUnits { settings with smart, leadingUnit } = settings.displayedUnits := by
    refine List.filterMap_congr fun unit _ => ?_
    simp only [formattedUnit?, leads]
  rw [timeReading, units]
  rfl

theorem elapsed?_manualBlock_of_clock : settings.manualBlock.elapsed? = none := by
  have units := settings.elapsed?_manualBlock
  rwa [clock, if_neg (by simp), Option.map_eq_none_iff] at units

/-- The numbers of a section without hundredths are those of the clock. -/
theorem number_of_time (without : settings.secondFormat ≠ .paddedCentis) {time : ClockTime}
    (regular : time.nano < 10 ^ 9) (unit : TimeUnit) :
    (settings.manualBlock.timeFields .clock time.seconds).number unit = time.number unit := by
  have precision := precision_manualBlock without
  have one : settings.manualBlock.ticksPerSecond = 1 := by rw [FormatSection.ticksPerSecond, precision]
  have ticks : settings.manualBlock.ticks time.seconds = time.secondsFromMidnight := by
    rw [FormatSection.ticks, precision, if_neg (Nat.lt_irrefl 0), ClockTime.toWord_truncate_seconds regular]
  rw [FormatSection.number_of_clock (elapsed?_manualBlock_of_clock clock), ticks, one, Nat.div_one,
    ClockTime.number_secondsFromMidnight]

theorem amPm_shownTime_of_clock (timed : settings.useTime = true) : settings.shownTime.amPm =
    if settings.twelveHours = true ∧ settings.displayedUnits ≠ [] then some settings.amPm else none := by
  rw [shownTime, timePlan?_eq timed, shownUnits_of_clock clock, amPm?, isDuration_of_clock clock]
  by_cases empty : settings.displayedUnits = []
  · simp [empty]
  · cases settings.twelveHours <;> simp [empty]

theorem accumulating_of_clock {plan : UnitPlan} (member : plan ∈ settings.shownUnits) : plan.accumulating = false :=
  (accumulating_of_shown member).trans (isLeading_of_clock clock plan.unit)

section Units

variable (without : settings.secondFormat ≠ .paddedCentis) {time : ClockTime} {fields : TimeFields}
  (numbers : ∀ unit, fields.number unit = time.number unit)

include without numbers

theorem text_eq_unitReading {plan : UnitPlan} (within : plan ∈ settings.shownUnits) (locale : Locale) :
    plan.text locale (fields.onDial settings.twelveHours) = settings.unitReading time plan := by
  have number := TimeFields.number_onDial numbers settings.twelveHours plan.unit
  have style := style_ne_paddedCentis without within
  rw [UnitPlan.text, accumulating_of_clock clock within, unitReading, ← number]
  cases written : plan.style with
  | paddedCentis => exact absurd written style
  | plain | padded => rfl

/-- What the units show where the hour is on the dial. -/
theorem join_units (locale : Locale) (date : Date) :
    String.join ((settings.shownUnits.flatMap UnitPlan.parts).map
      (·.preview locale date fields settings.twelveHours)) =
        String.join (settings.displayedUnits.map (settings.unitReading time)) := by
  have onDial : (settings.shownUnits.flatMap UnitPlan.parts).map
      (·.preview locale date fields settings.twelveHours) =
        (settings.shownUnits.flatMap UnitPlan.parts).map
          (·.preview locale date (fields.onDial settings.twelveHours) false) := by
    refine List.map_congr_left fun part member => ?_
    obtain ⟨plan, within, inside⟩ := List.mem_flatMap.mp member
    exact FormatPart.preview_onDial (UnitPlan.elapsed?_eq_none (accumulating_of_clock clock within) inside)
      (UnitPlan.isAmPm_of_mem inside) ..
  have units : ∀ plan ∈ settings.shownUnits,
      previewOf locale date (fields.onDial settings.twelveHours) plan.parts = settings.unitReading time plan := by
    intro plan within
    rw [← text_eq_unitReading clock without numbers within locale]
    exact UnitPlan.previewOf_parts (wellFormed_of_shown within)
      (fun centis => absurd centis (style_ne_paddedCentis without within)) locale date
  rw [onDial, ← previewOf, previewOf_flatMap units, shownUnits_of_clock clock]

end Units

/-- A clock without a date and without hundredths shows the time of day. -/
theorem preview_eq_timeReading (timed : settings.useTime = true) (dateless : settings.useDate = false)
    (without : settings.secondFormat ≠ .paddedCentis) {sample : Sample} (regular : sample.time.nano < 10 ^ 9) :
    settings.preview {} sample = settings.timeReading sample.time := by
  have noDuration := isDuration_of_clock clock
  let fields := settings.manualBlock.timeFields .clock sample.time.seconds
  have numbers : ∀ unit, fields.number unit = sample.time.number unit := number_of_time clock without regular
  have opening : String.join (settings.manualPlan.opening.map
      (·.preview {} sample.date fields settings.manualBlock.hasAmPm)) = "" := by
    have noDate : settings.datePlan? = none := by simp [datePlan?, dateless]
    simp only [ManualPlan.opening, manualPlan, noDate, List.append_nil]
    cases localeTag? settings.localeCode <;> rfl
  have shown : settings.preview {} sample = String.join (settings.manualBlock.parts.map
      (·.preview {} sample.date fields settings.manualBlock.hasAmPm)) := by
    rw [preview, format_eq_manualBlock (.inl noDuration), clock]
    rfl
  have half : settings.shownTime.amPm = _ := amPm_shownTime_of_clock clock timed
  have ending : String.join ((TimePlan.halfParts settings.shownTime.amPm).map
      (·.preview {} sample.date fields settings.manualBlock.hasAmPm)) =
        if settings.twelveHours = true ∧ settings.displayedUnits ≠ [] then
          " " ++ settings.amPm.mark (decide (sample.time.hour < 12))
        else "" := by
    have hour : fields.hours = sample.time.hour := numbers .hours
    rw [half, ← hour, ← TimeFields.amPmText_eq]
    split <;> simp [TimePlan.halfParts, FormatPart.preview]
  have units : String.join ((settings.shownTime.units.flatMap UnitPlan.parts).map
      (·.preview {} sample.date fields settings.manualBlock.hasAmPm)) =
        String.join (settings.displayedUnits.map (settings.unitReading sample.time)) := by
    rw [units_shownTime, if_pos timed]
    by_cases empty : settings.displayedUnits = []
    · rw [shownUnits_of_clock clock, empty]
      rfl
    · have dial : settings.manualBlock.hasAmPm = settings.twelveHours := by
        rw [hasAmPm_manualBlock, half]
        cases settings.twelveHours <;> simp [empty]
      rw [dial, join_units clock without numbers]
  have parts : settings.manualBlock.parts = _ := settings.parts_manualPlan
  rw [shown, parts, List.map_append, List.map_append, String.join_append, String.join_append, opening, units, ending,
    String.empty_append, timeReading]

end Clock

/-- A clock without a date and without hundredths shows the hour, the minute and the second of a time that is no leap
second, and nothing in the settings of a duration or in the duration of the sample makes a difference. -/
theorem preview_time_of_day (clock : settings.mode = .clock) (timed : settings.useTime = true)
    (dateless : settings.useDate = false) (without : settings.secondFormat ≠ .paddedCentis) {sample : Sample}
    (regular : sample.time.nano < 10 ^ 9) :
    settings.preview {} sample = settings.timeReading sample.time ∧
    ∀ (smart : Option SmartPreset) (leadingUnit : TimeUnit) (duration : Binary64),
      { settings with smart, leadingUnit }.preview {} { sample with duration } = settings.preview {} sample := by
  have shown := preview_eq_timeReading clock timed dateless without regular
  refine ⟨shown, fun smart leadingUnit duration => ?_⟩
  have other := @preview_eq_timeReading { settings with smart, leadingUnit } clock timed dateless without
    { sample with duration } regular
  rw [shown, other, timeReading_of_clock clock]

/-- A dial of twelve hours in the last nanosecond of a second after midnight and after noon, in hours, minutes and
seconds, and without the minutes. -/
theorem preview_time_of_day_twelve_hours :
    let settings : DateTimeSettings := {
      useDate := false
      localeCode := "en-US"
      leadingUnit := .seconds
      smart := some .timer
      secondFormat := .plain
      hourSuffix := "h "
      minuteSuffix := "m "
      secondSuffix := "s"
      twelveHours := true
      amPm := .shortLower }
    let brief := { settings with hourFormat := .plain, minuteFormat := .hidden }
    let byHand := { settings with leadingUnit := .hours, smart := none }
    let midnight : Sample := {
      time := ⟨0, 5, 9, 999999999, by decide, by decide, by decide, by decide⟩
      duration := .nan }
    let afternoon : Sample := { time := ⟨13, 0, 59, 999999999, by decide, by decide, by decide, by decide⟩ }
    (midnight.time.nano < 10 ^ 9 ∧ afternoon.time.nano < 10 ^ 9) ∧
    settings.preview {} midnight = "12h 05m 9s a" ∧ settings.preview {} afternoon = "01h 00m 59s p" ∧
      brief.preview {} afternoon = "1h 59s p" ∧
      byHand.preview {} { midnight with duration := .zero } = "12h 05m 9s a" := by
  intro settings brief byHand midnight afternoon
  have early : midnight.time.nano < 10 ^ 9 := by decide
  have late : afternoon.time.nano < 10 ^ 9 := by decide
  obtain ⟨shown, free⟩ := @preview_time_of_day settings rfl rfl rfl (by decide) midnight early
  obtain ⟨shownLate, _⟩ := @preview_time_of_day settings rfl rfl rfl (by decide) afternoon late
  obtain ⟨shownBrief, _⟩ := @preview_time_of_day brief rfl rfl rfl (by decide) afternoon late
  have text : settings.preview {} midnight = "12h 05m 9s a" := shown.trans (by decide)
  exact ⟨⟨early, late⟩, text, shownLate.trans (by decide), shownBrief.trans (by decide),
    (free none .hours .zero).trans text⟩

end DateTimeSettings

end CellFormat

import CellFormat.Proofs.NumberReading
import CellFormat.Proofs.RoundingError
import CellFormat.Proofs.TimePreview

/-!
The preview of a clock that shows hundredths of a second. The time of day is rounded to the nearest hundredth,
which may be midnight; the date is not, so that the text then spells the beginning of the day that is ending.
-/

namespace CellFormat

/-- The hundredths of a second in a day. -/
def hundredthsPerDay : Nat := 86400 * 100

/-- The first nanosecond of a day that is as near to the next midnight as to any hundredth before it. -/
def roundsToMidnight : Nat := 86399995000000

/-- The instant at a number of nanoseconds after the midnight that a date begins with. -/
def Date.instant (date : Date) (nanoseconds : Nat) : Int := date.dayNumber * (86400 * 10 ^ 9) + nanoseconds

namespace ClockTime

/-- The nanoseconds since midnight; a leap second counts on. -/
def nanoseconds (time : ClockTime) : Nat := time.secondsFromMidnight * 10 ^ 9 + time.nano

/-- The time of day in hundredths of a second, rounded. -/
def hundredths (time : ClockTime) : Nat := (time.seconds * .ofNat 100).round.toWord

theorem secondsFromMidnight_lt (time : ClockTime) : time.secondsFromMidnight < 86400 := by
  have hour := time.hour_lt
  have minute := time.minute_lt
  have second := time.second_lt
  unfold secondsFromMidnight
  omega

variable {time : ClockTime} (regular : time.nano < 10 ^ 9)

include regular

theorem nanoseconds_lt : time.nanoseconds < 86400 * 10 ^ 9 := by
  have day := time.secondsFromMidnight_lt
  unfold nanoseconds
  omega

theorem nano_div_lt : (time.nano : Rat) / (1000000000 : Nat) < 2 ^ 0 := by
  have billion : (0 : Rat) < (1000000000 : Nat) := by norm_num
  rw [div_lt_iff₀ billion, pow_zero, one_mul]
  exact_mod_cast regular

theorem isNear_decimals : (Binary64.ofNat time.nano / .ofNat 1000000000).IsNear
    (time.nano / (1000000000 : Nat)) (2 ^ 0 / 2 ^ 54) :=
  (Binary64.isNear_ofNat (regular.trans (by norm_num))).div (Binary64.isNear_ofNat (by norm_num)) (by norm_num) 0
    (nano_div_lt regular) (by norm_num)

/-- The seconds since midnight, but for the errors of a quotient and a sum. -/
theorem isNear_seconds : time.seconds.IsNear (time.secondsFromMidnight + time.nano / (1000000000 : Nat))
    (0 + 2 ^ 0 / 2 ^ 54 + 2 ^ 17 / 2 ^ 54) := by
  have day : (time.secondsFromMidnight : Rat) + 1 ≤ 86400 := by exact_mod_cast time.secondsFromMidnight_lt
  have fraction := nano_div_lt regular
  have whole := Binary64.isNear_ofNat (time.secondsFromMidnight_lt.trans (by norm_num))
  exact whole.add (isNear_decimals regular) 17 (by norm_num at *; linarith) (by norm_num)

/-- What the arithmetic adds to the error of rounding is less than a nanosecond. -/
theorem hundredths_error : |((time.hundredths * 10 ^ 7 : Nat) : Rat) - time.nanoseconds| < 5 * 10 ^ 6 + 1 := by
  have day : (time.secondsFromMidnight : Rat) + 1 ≤ 86400 := by exact_mod_cast time.secondsFromMidnight_lt
  have fraction := nano_div_lt regular
  have product := (isNear_seconds regular).mul (Binary64.isNear_ofNat (n := 100) (by norm_num)) 24
    (by norm_num at *; linarith) (by norm_num)
  have rounded := product.toWord_round (by norm_num at *; linarith)
  rw [← hundredths] at rounded
  have inNanoseconds : (time.hundredths : Rat) -
      (time.secondsFromMidnight + time.nano / (1000000000 : Nat)) * (100 : Nat) =
        (((time.hundredths * 10 ^ 7 : Nat) : Rat) - time.nanoseconds) / 10 ^ 7 := by
    rw [nanoseconds]
    push_cast
    ring
  have scale : (0 : Rat) < 10 ^ 7 := by positivity
  rw [inNanoseconds, abs_div, abs_of_pos scale, div_le_iff₀ scale] at rounded
  exact lt_of_le_of_lt rounded (by norm_num)

/-- Rounding errs by half a hundredth at most. -/
theorem hundredths_bounds : time.nanoseconds ≤ time.hundredths * 10 ^ 7 + 5 * 10 ^ 6 ∧
    time.hundredths * 10 ^ 7 ≤ time.nanoseconds + 5 * 10 ^ 6 := by
  obtain ⟨below, above⟩ := abs_lt.mp (hundredths_error regular)
  have lower : (time.nanoseconds : Rat) < (time.hundredths * 10 ^ 7 + (5 * 10 ^ 6 + 1) : Nat) := by
    push_cast at below ⊢
    linarith
  have upper : ((time.hundredths * 10 ^ 7 : Nat) : Rat) < (time.nanoseconds + (5 * 10 ^ 6 + 1) : Nat) := by
    push_cast at above ⊢
    linarith
  exact ⟨Nat.le_of_lt_succ (Nat.cast_lt.mp lower), Nat.le_of_lt_succ (Nat.cast_lt.mp upper)⟩

/-- The half way to midnight is rounded to it; about any other time the error leaves no doubt. -/
theorem hundredths_lt_iff : time.hundredths < hundredthsPerDay ↔ time.nanoseconds < roundsToMidnight := by
  obtain ⟨lower, upper⟩ := hundredths_bounds regular
  unfold hundredthsPerDay roundsToMidnight
  constructor
  · intro before
    by_contra late
    have halfway : time.nanoseconds = 86399995000000 := by omega
    have fields : time.secondsFromMidnight = 86399 ∧ time.nano = 995000000 := by
      rw [nanoseconds] at halfway
      omega
    have midnight : time.hundredths = 8640000 := by
      rw [hundredths, seconds, fields.1, fields.2]
      decide +kernel
    omega
  · intro early
    omega

end ClockTime

theorem Date.ext {date other : Date} (year : date.year = other.year) (month : date.month = other.month)
    (day : date.day = other.day) : date = other := by
  obtain ⟨_, _, _, _, _, _⟩ := date
  cases year
  cases month
  cases day
  rfl

theorem Date.day_lt (date : Date) : date.day < 100 := by
  have most : daysInMonth date.year date.month ≤ 31 := by
    unfold daysInMonth
    split
    · split <;> decide
    all_goals decide
  have range := date.day_range
  omega

theorem yearText_inj {year other : Int} (same : yearText year = yearText other) : year = other := by
  have unsigned : ∀ n : Nat, '-' ∉ paddedDigits 4 n := fun n member =>
    absurd (isDigit_of_mem_paddedDigits member) (by decide)
  unfold yearText at same
  split at same <;> split at same
  · have digits := paddedDigits_inj (List.cons.inj same).2
    omega
  · exact absurd (same ▸ List.mem_cons_self) (unsigned _)
  · exact absurd (same.symm ▸ List.mem_cons_self) (unsigned _)
  · have digits := paddedDigits_inj same
    omega

namespace DateTimeSettings

/-- The text that spells a number of hundredths of a second since midnight. -/
def hundredthsText (settings : DateTimeSettings) (locale : Locale) (hundredths : Nat) : String :=
  settings.unitsText locale (fun unit => unit.number .hours (hundredths / 100)) (hundredths % 100)

/-- The text that spells a date and a number of hundredths of a second since its midnight. -/
def clockText (settings : DateTimeSettings) (locale : Locale) (date : Date) (hundredths : Nat) : String :=
  settings.dateText locale date ++ settings.hundredthsText locale hundredths

variable {settings : DateTimeSettings}

theorem elapsed?_of_clock (clock : settings.mode = .clock) : settings.timeBlock.elapsed? = none := by
  rcases elapsed?_timeSection settings.untimed_openingParts settings.shownUnits with
    ⟨_, _, plan, within, accumulating, _⟩ | ⟨found, _⟩
  · rw [accumulating_of_shown within, isLeading_of_clock clock] at accumulating
    cases accumulating
  · exact found

theorem precision_of_centis {plan : UnitPlan} (shown : plan ∈ settings.shownUnits)
    (centis : plan.style = .paddedCentis) : settings.timeBlock.precision = 2 := by
  rcases subSecondPlaces_timeSection settings.untimed_openingParts settings.shownUnits with places | ⟨_, never⟩
  · rw [FormatSection.precision, timeBlock, places]
    rfl
  · exact absurd centis (never plan shown (wellFormed_of_shown shown))

/-- A clock with hundredths shows the date of the sample and the hundredth of the day that the time is rounded
to. -/
theorem preview_eq_clockText (clock : settings.mode = .clock) (timed : settings.useTime = true)
    (centis : settings.secondFormat = .paddedCentis) (wholeDay : settings.twelveHours = false) (locale : Locale)
    (sample : Sample) : settings.preview locale sample =
      settings.clockText locale sample.date (sample.time.hundredths % hundredthsPerDay) := by
  have noDuration := isDuration_of_clock clock
  have found : settings.formattedUnit? .seconds =
      some ⟨.seconds, .paddedCentis, settings.isLeading .seconds, settings.secondSuffix⟩ := by
    simp only [formattedUnit?, centis]
  have within : TimeUnit.seconds ∈ settings.modeUnits := by
    rw [modeUnits_of_clock clock]
    decide
  have decimals := List.mem_filterMap.mpr ⟨_, within, found⟩
  have noHalf : settings.amPm? = none := by simp [amPm?, wholeDay]
  have single := format_eq_timeBlock (plan_eq_manualPlan (.inl noDuration)) timed noHalf
    (.inr (List.ne_nil_of_mem decimals))
  have precision := precision_of_centis decimals rfl
  have perSecond : settings.timeBlock.ticksPerSecond = 100 := by
    rw [FormatSection.ticksPerSecond, precision]
  have counted : settings.timeBlock.ticks sample.time.seconds = sample.time.hundredths := by
    rw [FormatSection.ticks, precision, if_pos two_pos, perSecond, ClockTime.hundredths]
  have split : sample.time.hundredths % hundredthsPerDay / 100 = sample.time.hundredths / 100 % 86400 := by
    unfold hundredthsPerDay
    omega
  have rest : sample.time.hundredths % hundredthsPerDay % 100 = sample.time.hundredths % 100 := by
    unfold hundredthsPerDay
    omega
  have numbers : ∀ plan ∈ settings.shownUnits,
      (settings.timeBlock.timeFields .clock sample.time.seconds).number plan.unit =
        plan.unit.number .hours (sample.time.hundredths % hundredthsPerDay / 100) := by
    intro plan _
    rw [FormatSection.number_of_clock (elapsed?_of_clock clock), counted, perSecond, split]
  have fraction : (settings.timeBlock.timeFields .clock sample.time.seconds).fraction =
      sample.time.hundredths % hundredthsPerDay % 100 := by
    show settings.timeBlock.ticks _ % settings.timeBlock.ticksPerSecond = _
    rw [counted, perSecond, rest]
  have counting : settings.timeBlock.timeFields settings.mode (sample.seconds settings.mode) =
      settings.timeBlock.timeFields .clock sample.time.seconds := by
    rw [clock]
    rfl
  have positive : sample.isNegative settings.mode = false := by
    rw [clock]
    rfl
  rw [preview_eq_unitsText single locale counting (fun unit => unit.number .hours _) numbers, positive,
    fraction, if_neg Bool.false_ne_true, String.empty_append]
  rfl

/-- Whether a clock shows date and time in full, each number but the year in a fixed width. -/
structure IsStamp (settings : DateTimeSettings) : Prop where
  clock : settings.mode = .clock
  dated : settings.useDate = true
  day : settings.dayFormat = .padded
  month : settings.monthFormat = .padded
  year : settings.yearFormat = .fourDigits
  hour : settings.hourFormat = .padded
  minute : settings.minuteFormat = .padded
  second : settings.secondFormat = .paddedCentis

namespace IsStamp

theorem unitsText_eq (stamp : settings.IsStamp) (locale : Locale) (number : TimeUnit → Nat) (hundredths : Nat) :
    (settings.unitsText locale number hundredths).toList =
      paddedDigits 2 (number .hours) ++ (settings.hourSuffix.toList ++ (paddedDigits 2 (number .minutes) ++
        (settings.minuteSuffix.toList ++ (paddedDigits 2 (number .seconds) ++
          ([locale.decimalMark] ++ (paddedDigits 2 hundredths ++ settings.secondSuffix.toList)))))) := by
  have units : settings.shownUnits = [⟨.hours, .padded, false, settings.hourSuffix⟩,
      ⟨.minutes, .padded, false, settings.minuteSuffix⟩,
      ⟨.seconds, .paddedCentis, false, settings.secondSuffix⟩] := by
    simp [shownUnits, modeUnits, stamp.clock, formattedUnit?, stamp.hour, stamp.minute, stamp.second,
      isLeading_of_clock stamp.clock]
  simp [unitsText, units, UnitStyle.text]

theorem dateText_eq (stamp : settings.IsStamp) (locale : Locale) (date : Date) :
    let between := settings.dateSeparatorText.toList
    let day := paddedDigits 2 date.day
    let month := paddedDigits 2 date.month
    let year := yearText date.year
    (settings.dateText locale date).toList = match settings.dateOrder with
      | .dayMonthYear => day ++ (between ++ (month ++ (between ++ (year ++ [' ']))))
      | .monthDayYear => month ++ (between ++ (day ++ (between ++ (year ++ [' ']))))
      | .yearMonthDay => year ++ (between ++ (month ++ (between ++ (day ++ [' '])))) := by
  intro between day month year
  have dated : settings.datePlan? = some ⟨settings.dateOrder, settings.dateSeparatorText, .padded, .padded,
      .fourDigits⟩ := by
    rw [datePlan?, isDateSuppressed, isDuration_of_clock stamp.clock, stamp.dated, stamp.day, stamp.month,
      stamp.year]
    rfl
  rw [dateText, dated]
  cases settings.dateOrder <;>
    simp [DatePlan.text, DatePlan.calendarParts, DayFormat.part, MonthFormat.part, YearFormat.part,
      CalendarPart.preview, String.intercalate_cons_cons, between, day, month, year]

theorem number_lt (unit : TimeUnit) {hundredths : Nat} (within : hundredths < hundredthsPerDay) :
    unit.number .hours (hundredths / 100) < 100 := by
  unfold hundredthsPerDay at within
  cases unit <;> simp only [TimeUnit.number, TimeUnit.length, reduceCtorEq, if_true, if_false] <;> omega

theorem hundredths_inj (stamp : settings.IsStamp) {locale : Locale} {hundredths other : Nat}
    (within : hundredths < hundredthsPerDay) (otherWithin : other < hundredthsPerDay)
    (same : (settings.hundredthsText locale hundredths).toList = (settings.hundredthsText locale other).toList) :
    hundredths = other := by
  rw [hundredthsText, hundredthsText, stamp.unitsText_eq, stamp.unitsText_eq] at same
  obtain ⟨hours, same⟩ := paddedDigits_append_inj (number_lt _ within) (number_lt _ otherWithin) same
  obtain ⟨minutes, same⟩ := paddedDigits_append_inj (number_lt _ within) (number_lt _ otherWithin)
    (List.append_cancel_left same)
  obtain ⟨seconds, same⟩ := paddedDigits_append_inj (number_lt _ within) (number_lt _ otherWithin)
    (List.append_cancel_left same)
  obtain ⟨rest, _⟩ := paddedDigits_append_inj (Nat.mod_lt _ (by decide)) (Nat.mod_lt _ (by decide))
    (List.append_cancel_left same)
  simp only [TimeUnit.number, TimeUnit.length, reduceCtorEq, if_true, if_false] at hours minutes seconds
  omega

theorem length_hundredthsText (stamp : settings.IsStamp) (locale : Locale) {hundredths : Nat}
    (within : hundredths < hundredthsPerDay) : (settings.hundredthsText locale hundredths).toList.length =
      9 + settings.hourSuffix.length + settings.minuteSuffix.length + settings.secondSuffix.length := by
  rw [hundredthsText, stamp.unitsText_eq]
  simp only [List.length_append, length_paddedDigits_two _ (number_lt _ within),
    length_paddedDigits_two _ (Nat.mod_lt hundredths (show 0 < 100 by decide)), List.length_singleton,
    String.length_toList]
  omega

/-- No two instants that are shown in full have one text. -/
theorem clockText_inj (stamp : settings.IsStamp) {locale : Locale} {date other : Date} {hundredths others : Nat}
    (within : hundredths < hundredthsPerDay) (otherWithin : others < hundredthsPerDay)
    (same : settings.clockText locale date hundredths = settings.clockText locale other others) :
    date = other ∧ hundredths = others := by
  have days := date.day_lt
  have otherDays := other.day_lt
  have months : date.month < 100 := by have range := date.month_range; omega
  have otherMonths : other.month < 100 := by have range := other.month_range; omega
  have lengths := (stamp.length_hundredthsText locale within).trans
    (stamp.length_hundredthsText locale otherWithin).symm
  have inDay : (settings.hundredthsText locale hundredths).toList = (settings.hundredthsText locale others).toList →
      hundredths = others := stamp.hundredths_inj within otherWithin
  rw [clockText, clockText, ← String.toList_inj, String.toList_append, String.toList_append, stamp.dateText_eq,
    stamp.dateText_eq] at same
  generalize (settings.hundredthsText locale hundredths).toList = time at *
  generalize (settings.hundredthsText locale others).toList = otherTime at *
  suffices fields : date.day = other.day ∧ date.month = other.month ∧ date.year = other.year ∧
      time = otherTime by
    obtain ⟨day, month, year, times⟩ := fields
    exact ⟨Date.ext year month day, inDay times⟩
  generalize settings.dateOrder = order at same
  cases order with
  | dayMonthYear =>
    simp only [List.append_assoc] at same
    obtain ⟨day, same⟩ := paddedDigits_append_inj days otherDays same
    obtain ⟨month, same⟩ := paddedDigits_append_inj months otherMonths (List.append_cancel_left same)
    obtain ⟨year, same⟩ := List.append_inj' (List.append_cancel_left same) (by simp [lengths])
    exact ⟨day, month, yearText_inj year, List.append_cancel_left same⟩
  | monthDayYear =>
    simp only [List.append_assoc] at same
    obtain ⟨month, same⟩ := paddedDigits_append_inj months otherMonths same
    obtain ⟨day, same⟩ := paddedDigits_append_inj days otherDays (List.append_cancel_left same)
    obtain ⟨year, same⟩ := List.append_inj' (List.append_cancel_left same) (by simp [lengths])
    exact ⟨day, month, yearText_inj year, List.append_cancel_left same⟩
  | yearMonthDay =>
    simp only [List.append_assoc] at same
    obtain ⟨year, same⟩ := List.append_inj' same (by
      simp [lengths, length_paddedDigits_two, days, otherDays, months, otherMonths])
    obtain ⟨month, same⟩ := paddedDigits_append_inj months otherMonths (List.append_cancel_left same)
    obtain ⟨day, same⟩ := paddedDigits_append_inj days otherDays (List.append_cancel_left same)
    exact ⟨day, month, yearText_inj year, List.append_cancel_left same⟩

end IsStamp

/-- A clock with hundredths spells an instant within a hundredth of the sample's, unless the time is rounded to
the next midnight: then it spells the midnight that the day began with. -/
theorem preview_clock_iff (clock : settings.mode = .clock) (timed : settings.useTime = true)
    (centis : settings.secondFormat = .paddedCentis) (wholeDay : settings.twelveHours = false) {sample : Sample}
    (regular : sample.time.nano < 10 ^ 9) (locale : Locale) : ∃ hundredths < hundredthsPerDay,
      settings.preview locale sample = settings.clockText locale sample.date hundredths ∧
      (|sample.date.instant (hundredths * 10 ^ 7) - sample.date.instant sample.time.nanoseconds| ≤ 10 ^ 7 ↔
        sample.time.nanoseconds < roundsToMidnight) ∧
      (roundsToMidnight ≤ sample.time.nanoseconds → hundredths = 0) := by
  obtain ⟨lower, upper⟩ := ClockTime.hundredths_bounds regular
  have day := ClockTime.nanoseconds_lt regular
  have midnight := ClockTime.hundredths_lt_iff regular
  have text := preview_eq_clockText clock timed centis wholeDay locale sample
  generalize sample.time.hundredths = hundredths at *
  generalize sample.time.nanoseconds = nanoseconds at *
  refine ⟨hundredths % hundredthsPerDay, Nat.mod_lt _ (by decide), text, ?_, ?_⟩
  · rw [← midnight, Date.instant, Date.instant, add_sub_add_left_eq_sub, abs_le]
    unfold hundredthsPerDay
    omega
  · unfold hundredthsPerDay roundsToMidnight at *
    omega

/-- A date in another order with an hour that is not filled up, in the last second before noon. -/
theorem preview_clock_iff_noon :
    let settings : DateTimeSettings := {
      dateOrder := .yearMonthDay, monthFormat := .full, hourFormat := .plain, secondFormat := .paddedCentis }
    let time : ClockTime := ⟨11, 59, 59, 999000000, by decide, by decide, by decide, by decide⟩
    let sample : Sample := { time }
    (settings.mode = .clock ∧ settings.useTime = true ∧ settings.secondFormat = .paddedCentis ∧
      settings.twelveHours = false ∧ time.nano < 10 ^ 9) ∧
    ∃ hundredths < hundredthsPerDay,
      settings.preview {} sample = settings.clockText {} sample.date hundredths ∧
      |sample.date.instant (hundredths * 10 ^ 7) - sample.date.instant time.nanoseconds| ≤ 10 ^ 7 := by
  intro settings time sample
  have regular : sample.time.nano < 10 ^ 9 := by decide
  obtain ⟨hundredths, within, text, near, _⟩ := settings.preview_clock_iff rfl rfl rfl rfl regular {}
  exact ⟨⟨rfl, rfl, rfl, rfl, regular⟩, hundredths, within, text, near.mpr (by decide)⟩

/-- Less than half a hundredth before midnight the clock shows the midnight that the same day began with, and its
text spells no other instant. -/
theorem midnight_keeps_the_date :
    let settings : DateTimeSettings := { secondFormat := .paddedCentis, minuteSuffix := ":" }
    let time : ClockTime := ⟨23, 59, 59, 996000000, by decide, by decide, by decide, by decide⟩
    let sample : Sample := { time }
    time.nano < 10 ^ 9 ∧ settings.preview {} sample = "25/10/2025 00:00:00.00" ∧
    ∀ (date : Date), ∀ hundredths < hundredthsPerDay,
      settings.clockText {} date hundredths = settings.preview {} sample →
        10 ^ 7 < |date.instant (hundredths * 10 ^ 7) - sample.date.instant time.nanoseconds| := by
  intro settings time sample
  have shown : settings.preview {} sample = "25/10/2025 00:00:00.00" := by decide +kernel
  refine ⟨by decide, shown, fun date hundredths within same => ?_⟩
  have stamp : settings.IsStamp := ⟨rfl, rfl, rfl, rfl, rfl, rfl, rfl, rfl⟩
  have midnight : settings.clockText {} sample.date 0 = settings.preview {} sample := by
    rw [shown]
    decide
  obtain ⟨rfl, rfl⟩ := stamp.clockText_inj within (by decide) (same.trans midnight.symm)
  decide

end DateTimeSettings

end CellFormat

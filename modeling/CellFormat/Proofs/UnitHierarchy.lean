import CellFormat.Proofs.TimePreview

/-!
What of a date and a time gets into a format: the date where no duration forbids it, and the units that the mode
allows. Of these only the one that leads a duration counts on without end, and it stands before all others.
-/

namespace CellFormat

/-- The unit that a part tells the number of. -/
def ClockPart.unit : ClockPart → TimeUnit
  | hour | hour2 => .hours
  | minute | minute2 => .minutes
  | second | second2 => .seconds

namespace FormatPart

def isElapsed : FormatPart → Bool
  | elapsed _ => true
  | _ => false

/-- The unit that a part tells the number of, within the next longer one or without end. -/
def timeUnit? : FormatPart → Option TimeUnit
  | clock part => some part.unit
  | elapsed part => some part.unit
  | locale _ | calendar _ | subSecond _ | amPm _ | literal _ | separator _ => none

theorem isElapsed_iff {part : FormatPart} : part.isElapsed = true ↔ ∃ counting, part = .elapsed counting := by
  cases part <;> simp [isElapsed]

theorem elapsed?_eq_some_iff {part : FormatPart} {counting : ElapsedPart} :
    part.elapsed? = some counting ↔ part = .elapsed counting := by
  cases part <;> simp [elapsed?]

/-- What counts on stands before all other numbers of a time. -/
def MayPrecede (earlier later : FormatPart) : Prop := later.isElapsed = true → earlier.timeUnit? = none

instance (earlier later : FormatPart) : Decidable (earlier.MayPrecede later) :=
  inferInstanceAs (Decidable (_ → _))

variable {part : FormatPart}

theorem isElapsed_of_timeless (timeless : part.timeUnit? = none) : part.isElapsed = false := by
  cases part <;> first | rfl | cases timeless

theorem mayPrecede_of_timeless (timeless : part.timeUnit? = none) (later : FormatPart) : part.MayPrecede later :=
  fun _ => timeless

theorem mayFollow_of_timeless (timeless : part.timeUnit? = none) (earlier : FormatPart) :
    earlier.MayPrecede part := by
  intro counts
  rw [isElapsed_of_timeless timeless] at counts
  cases counts

theorem countP_isElapsed {parts : List FormatPart} (ordered : parts.Pairwise MayPrecede) :
    parts.countP isElapsed ≤ 1 := by
  induction ordered with
  | nil => simp
  | @cons part later behind _ ih =>
    by_cases counts : part.isElapsed = true
    · -- Were there another one, this one would tell no unit.
      have others : later.countP isElapsed = 0 := by
        refine List.countP_eq_zero.mpr fun other member again => ?_
        have timeless := behind other member again
        obtain ⟨counting, rfl⟩ := isElapsed_iff.mp counts
        cases timeless
      rw [List.countP_cons_of_pos counts, others]
    · rw [List.countP_cons_of_neg counts]
      exact ih

end FormatPart

theorem DateTimeFormat.exists_elapsed_of_isElapsed {format : DateTimeFormat} (elapsed : format.isElapsed = true) :
    ∃ block ∈ format.sections, ∃ counting, .elapsed counting ∈ block.parts := by
  obtain ⟨part, member, counts⟩ := List.any_eq_true.mp elapsed
  obtain ⟨counting, found⟩ := Option.isSome_iff_exists.mp counts
  obtain rfl := FormatPart.elapsed?_eq_some_iff.mp found
  obtain ⟨block, within, inside⟩ := List.mem_flatMap.mp member
  exact ⟨block, within, counting, inside⟩

open FormatPart (MayPrecede)

theorem Spacing.timeless_of_mem {parts : List FormatPart} (spacing : Spacing parts) {part : FormatPart}
    (member : part ∈ parts) : part.timeUnit? = Option.none := by
  cases spacing with
  | none => cases member
  | bare | quoted =>
    rw [List.mem_singleton.mp member]
    rfl

theorem DatePlan.timeless_of_mem {plan : DatePlan} {part : FormatPart} (member : part ∈ plan.parts) :
    part.timeUnit? = none := by
  rcases DatePlan.mem_parts member with between | ⟨calendar, rfl⟩
  · exact plan.spacing_separatorParts.timeless_of_mem between
  · rfl

theorem DatePlan.exists_calendar (plan : DatePlan) : ∃ calendar, .calendar calendar ∈ plan.parts := by
  obtain ⟨first, second, third, three, _⟩ := plan.exists_calendarParts
  exact ⟨first, parts_eq three ▸ List.mem_cons_self⟩

theorem TimePlan.mem_halfParts {half : Option AmPmStyle} {part : FormatPart} (member : part ∈ halfParts half) :
    part = .separator " " ∨ ∃ style, part = .amPm style := by
  cases half with
  | none => cases member
  | some style =>
    simp only [halfParts, List.mem_cons, List.not_mem_nil, or_false] at member
    exact member.imp_right fun mark => ⟨style, mark⟩

theorem TimePlan.timeless_of_mem_halfParts {half : Option AmPmStyle} {part : FormatPart}
    (member : part ∈ halfParts half) : part.timeUnit? = none := by
  rcases mem_halfParts member with rfl | ⟨_, rfl⟩ <;> rfl

namespace UnitPlan

variable {plan : UnitPlan} {part : FormatPart}

theorem unit_of_mem_numbers (unit : TimeUnit) : ∀ number ∈ unit.numbers, ∀ part ∈ number,
    part.timeUnit? = some unit ∨ part.timeUnit? = none := by
  cases unit <;> decide

theorem ordered_of_mem_numbers (unit : TimeUnit) : ∀ number ∈ unit.numbers, number.Pairwise MayPrecede := by
  cases unit <;> decide

/-- The parts of a unit tell no other unit. -/
theorem timeUnit?_of_mem (member : part ∈ plan.parts) {unit : TimeUnit} (tells : part.timeUnit? = some unit) :
    unit = plan.unit := by
  rcases List.mem_append.mp member with number | suffix
  · rcases unit_of_mem_numbers plan.unit _ plan.numberParts_mem part number with own | timeless
    · exact Option.some.inj (tells.symm.trans own)
    · rw [timeless] at tells
      cases tells
  · rw [plan.spacing_suffixParts.timeless_of_mem suffix] at tells
    cases tells

theorem isCalendar_of_mem (member : part ∈ plan.parts) : part.isCalendar = false := by
  rcases mem_parts member with (rfl | rfl) | ⟨_, rfl⟩ | rfl | ⟨_, _, _, rfl⟩ <;> rfl

theorem ordered_parts (plan : UnitPlan) : plan.parts.Pairwise MayPrecede := by
  have last : ∀ suffix ∈ plan.suffixParts, ∀ earlier : FormatPart, earlier.MayPrecede suffix := fun _ member =>
    FormatPart.mayFollow_of_timeless (plan.spacing_suffixParts.timeless_of_mem member)
  refine List.pairwise_append.mpr ⟨ordered_of_mem_numbers plan.unit _ plan.numberParts_mem, ?_, ?_⟩
  · exact List.pairwise_of_forall_mem_list fun earlier _ suffix member => last suffix member earlier
  · exact fun number _ suffix member => last suffix member number

/-- Units of which none but the first counts on. -/
def Led (units : List UnitPlan) : Prop := units.Pairwise fun _ later => later.accumulating = false

theorem Led.ordered {units : List UnitPlan} (led : Led units) : (units.flatMap parts).Pairwise MayPrecede := by
  refine List.pairwise_flatMap.mpr ⟨fun plan _ => plan.ordered_parts, led.imp ?_⟩
  intro _ later steady first _ second behind counts
  obtain ⟨counting, rfl⟩ := FormatPart.isElapsed_iff.mp counts
  have accumulating := (elapsed?_of_mem behind rfl).1
  rw [steady] at accumulating
  cases accumulating

end UnitPlan

namespace ManualPlan

/-- The parts before the time: the locale tag, and the date with the space behind it. -/
def opening (plan : ManualPlan) : List FormatPart :=
  (plan.locale.map FormatPart.locale).toList ++
    match plan.date with
    | some date => date.parts ++ if plan.time.isSome then [.separator " "] else []
    | none => []

theorem parts_eq_opening_append (plan : ManualPlan) : plan.parts = plan.opening ++ timeParts plan.time := by
  obtain ⟨locale, date, time⟩ := plan
  cases date <;> cases time <;> simp [parts, opening, timeParts, TimePlan.parts]

variable {plan : ManualPlan} {part : FormatPart}

theorem mem_opening (member : part ∈ plan.opening) :
    (∃ content, part = .locale content) ∨ (∃ date ∈ plan.date, part ∈ date.parts) ∨ part = .separator " " := by
  unfold opening at member
  rcases List.mem_append.mp member with tag | shown
  · obtain ⟨content, _, rfl⟩ := Option.map_eq_some_iff.mp (Option.mem_toList.mp tag)
    exact .inl ⟨content, rfl⟩
  · split at shown
    · next date planned =>
      rcases List.mem_append.mp shown with inside | space
      · exact .inr (.inl ⟨date, planned, inside⟩)
      · split at space
        · exact .inr (.inr (List.mem_singleton.mp space))
        · cases space
    · cases shown

theorem timeless_of_mem_opening (member : part ∈ plan.opening) : part.timeUnit? = none := by
  rcases mem_opening member with ⟨_, rfl⟩ | ⟨date, _, inside⟩ | rfl
  · rfl
  · exact DatePlan.timeless_of_mem inside
  · rfl

theorem untimed_of_mem_opening (member : part ∈ plan.opening) : part.IsUntimed := by
  rcases mem_opening member with ⟨_, rfl⟩ | ⟨date, _, inside⟩ | rfl
  · exact ⟨rfl, rfl, rfl⟩
  · exact DatePlan.untimed_of_mem inside
  · exact ⟨rfl, rfl, rfl⟩

theorem isCalendar_opening_iff : (∃ part ∈ plan.opening, part.isCalendar = true) ↔ plan.date.isSome = true := by
  constructor
  · rintro ⟨part, member, calendar⟩
    rcases mem_opening member with ⟨_, rfl⟩ | ⟨date, planned, _⟩ | rfl
    · cases calendar
    · rw [planned]
      rfl
    · cases calendar
  · intro dated
    obtain ⟨date, planned⟩ := Option.isSome_iff_exists.mp dated
    obtain ⟨calendar, inside⟩ := date.exists_calendar
    refine ⟨.calendar calendar, List.mem_append_right _ ?_, rfl⟩
    rw [planned]
    exact List.mem_append_left _ inside

end ManualPlan

namespace SmartPreset

theorem hasCalendarParts_format (preset : SmartPreset) : preset.format.hasCalendarParts = false := by
  cases preset <;> decide

theorem ordered_format (preset : SmartPreset) : ∀ block ∈ preset.format.sections,
    block.hasAmPm = false ∧ block.parts.Pairwise MayPrecede := by
  cases preset <;> decide

end SmartPreset

namespace DateTimeSettings

variable {settings : DateTimeSettings} {part : FormatPart}

/-- The time that is shown, which may be of no unit. -/
def shownTime (settings : DateTimeSettings) : TimePlan := settings.timePlan?.getD ⟨[], none⟩

theorem units_shownTime (settings : DateTimeSettings) : settings.shownTime.units =
    if settings.useTime then settings.shownUnits else [] := by
  rw [shownTime, timePlan?, filterMap_unitPlan?]
  cases settings.useTime with
  | false => rfl
  | true =>
    cases settings.shownUnits with
    | nil => rfl
    | cons => rfl

theorem mem_units_shownTime {unitPlan : UnitPlan} : unitPlan ∈ settings.shownTime.units ↔
    settings.useTime = true ∧ unitPlan ∈ settings.shownUnits := by
  rw [units_shownTime]
  split
  · next timed => simp [timed]
  · next timeless => simp [timeless]

theorem amPm_shownTime (duration : settings.isDuration = true) : settings.shownTime.amPm = none := by
  have whole : settings.amPm? = none := by simp [amPm?, duration]
  rw [shownTime, timePlan?, whole]
  split
  · split <;> rfl
  · rfl

theorem parts_manualPlan (settings : DateTimeSettings) : settings.manualPlan.parts = settings.manualPlan.opening ++
    (settings.shownTime.units.flatMap UnitPlan.parts ++ TimePlan.halfParts settings.shownTime.amPm) :=
  settings.manualPlan.parts_eq_opening_append

/-- Units stand in the order of their lengths, and none above the leading one is shown. -/
theorem led_shownTime (settings : DateTimeSettings) : UnitPlan.Led settings.shownTime.units := by
  rw [units_shownTime]
  split
  · refine List.Pairwise.filterMap _ ?_ settings.steady_modeUnits
    intro _ later steady _ _ plan planned
    rw [accumulating_of_formatted planned, steady]
  · exact .nil

theorem ordered_manualPlan (settings : DateTimeSettings) : settings.manualPlan.parts.Pairwise MayPrecede := by
  have opens : ∀ part ∈ settings.manualPlan.opening, ∀ later, part.MayPrecede later := fun _ member =>
    FormatPart.mayPrecede_of_timeless (ManualPlan.timeless_of_mem_opening member)
  have ends : ∀ part ∈ TimePlan.halfParts settings.shownTime.amPm, ∀ earlier : FormatPart,
      earlier.MayPrecede part := fun _ member =>
    FormatPart.mayFollow_of_timeless (TimePlan.timeless_of_mem_halfParts member)
  rw [parts_manualPlan]
  refine List.pairwise_append.mpr ⟨?_, List.pairwise_append.mpr ⟨settings.led_shownTime.ordered, ?_, ?_⟩, ?_⟩
  · exact List.pairwise_of_forall_mem_list fun part member later _ => opens part member later
  · exact List.pairwise_of_forall_mem_list fun earlier _ part member => ends part member earlier
  · exact fun number _ part member => ends part member number
  · exact fun part member later _ => opens part member later

/-- Where a part comes from: from before the time, from a unit that is shown, or from the half of the day. -/
theorem mem_manualPlan (member : part ∈ settings.manualPlan.parts) : part ∈ settings.manualPlan.opening ∨
    (settings.useTime = true ∧ ∃ unitPlan ∈ settings.shownUnits, part ∈ unitPlan.parts) ∨
    part ∈ TimePlan.halfParts settings.shownTime.amPm := by
  rw [parts_manualPlan, List.mem_append, List.mem_append] at member
  refine member.imp_right (Or.imp_left fun unit => ?_)
  obtain ⟨unitPlan, within, inside⟩ := List.mem_flatMap.mp unit
  obtain ⟨timed, shown⟩ := mem_units_shownTime.mp within
  exact ⟨timed, unitPlan, shown, inside⟩

theorem isCalendar_manualPlan_iff :
    (∃ part ∈ settings.manualPlan.parts, part.isCalendar = true) ↔ settings.datePlan?.isSome = true := by
  refine Iff.trans ?_ (@ManualPlan.isCalendar_opening_iff settings.manualPlan)
  constructor
  · rintro ⟨part, member, calendar⟩
    rcases mem_manualPlan member with before | ⟨_, shown, _, inside⟩ | half
    · exact ⟨part, before, calendar⟩
    · rw [UnitPlan.isCalendar_of_mem inside] at calendar
      cases calendar
    · rcases TimePlan.mem_halfParts half with rfl | ⟨_, rfl⟩ <;> cases calendar
  · rintro ⟨part, before, calendar⟩
    refine ⟨part, ?_, calendar⟩
    rw [parts_manualPlan]
    exact List.mem_append_left _ before

/-- The units that parts tell are shown ones. -/
theorem timeUnit?_manualPlan (member : part ∈ settings.manualPlan.parts) {unit : TimeUnit}
    (tells : part.timeUnit? = some unit) : unit ∈ settings.modeUnits := by
  rcases mem_manualPlan member with before | ⟨_, unitPlan, within, inside⟩ | half
  · rw [ManualPlan.timeless_of_mem_opening before] at tells
    cases tells
  · rw [UnitPlan.timeUnit?_of_mem inside tells]
    exact (mem_shownUnits.mp within).1
  · rw [TimePlan.timeless_of_mem_halfParts half] at tells
    cases tells

theorem isAmPm_manualPlan (duration : settings.isDuration = true) (member : part ∈ settings.manualPlan.parts) :
    part.isAmPm = false := by
  rcases mem_manualPlan member with before | ⟨_, shown, _, inside⟩ | half
  · exact (ManualPlan.untimed_of_mem_opening before).2.2
  · exact UnitPlan.isAmPm_of_mem inside
  · rw [amPm_shownTime duration] at half
    cases half

/-- Whether the unit that leads a duration is among those shown. -/
def ShowsLeadingUnit (settings : DateTimeSettings) : Prop :=
  settings.useTime = true ∧ settings.Displays settings.leadingUnit

instance (settings : DateTimeSettings) : Decidable settings.ShowsLeadingUnit :=
  inferInstanceAs (Decidable (_ ∧ _))

theorem elapsed_of_mem_manualPlan {counting : ElapsedPart} (member : .elapsed counting ∈ settings.manualPlan.parts) :
    settings.mode = .duration ∧ settings.ShowsLeadingUnit ∧ counting.unit = settings.leadingUnit := by
  rcases mem_manualPlan member with before | ⟨timed, unitPlan, within, inside⟩ | half
  · cases ManualPlan.timeless_of_mem_opening before
  · obtain ⟨leads, same⟩ := UnitPlan.elapsed?_of_mem inside rfl
    have found := (mem_shownUnits.mp within).2
    rw [accumulating_of_formatted found] at leads
    obtain ⟨duration, leading⟩ := isLeading_iff.mp leads
    exact ⟨duration, ⟨timed, leading ▸ displays_of_formatted found⟩, same.trans leading⟩
  · cases TimePlan.timeless_of_mem_halfParts half

theorem exists_elapsed_mem_manualPlan (duration : settings.mode = .duration) (shows : settings.ShowsLeadingUnit) :
    ∃ counting, .elapsed counting ∈ settings.manualPlan.parts := by
  obtain ⟨timed, displayed⟩ := shows
  obtain ⟨unitPlan, found⟩ := exists_formatted displayed
  have within : unitPlan ∈ settings.shownUnits :=
    List.mem_filterMap.mpr ⟨_, settings.leadingUnit_mem_modeUnits, found⟩
  have leads : unitPlan.accumulating = true := by
    rw [accumulating_of_formatted found]
    exact isLeading_iff.mpr ⟨duration, rfl⟩
  obtain ⟨counting, inside⟩ := UnitPlan.exists_elapsed leads
  refine ⟨counting, ?_⟩
  rw [parts_manualPlan]
  refine List.mem_append_right _ (List.mem_append_left _ (List.mem_flatMap.mpr ⟨unitPlan, ?_, inside⟩))
  exact mem_units_shownTime.mpr ⟨timed, within⟩

/-- The one section of settings that no preset replaces. -/
def manualBlock (settings : DateTimeSettings) : FormatSection := { parts := settings.manualPlan.parts }

theorem format_eq_manualBlock (byHand : settings.isDuration = false ∨ settings.smart = none) :
    settings.format = ⟨[settings.manualBlock]⟩ := by
  rw [format, plan_eq_manualPlan byHand]
  rfl

theorem format_eq_preset (duration : settings.isDuration = true) {preset : SmartPreset}
    (chosen : settings.smart = some preset) : settings.format = preset.format := by
  rw [format, plan, duration, chosen]
  rfl

theorem elapsed?_manualBlock (settings : DateTimeSettings) : settings.manualBlock.elapsed?.map ElapsedPart.unit =
    if settings.mode = .duration ∧ settings.ShowsLeadingUnit then some settings.leadingUnit else none := by
  cases found : settings.manualBlock.elapsed? with
  | some counting =>
    obtain ⟨part, member, counts⟩ := List.exists_of_findSome?_eq_some found
    obtain rfl := FormatPart.elapsed?_eq_some_iff.mp counts
    obtain ⟨duration, shows, leading⟩ := elapsed_of_mem_manualPlan member
    rw [if_pos ⟨duration, shows⟩, ← leading]
    rfl
  | none =>
    rw [if_neg]
    · rfl
    · rintro ⟨duration, shows⟩
      obtain ⟨counting, member⟩ := exists_elapsed_mem_manualPlan duration shows
      cases List.findSome?_eq_none_iff.mp found _ member

theorem datePlan?_isSome_iff : settings.datePlan?.isSome = true ↔ settings.useDate = true ∧
    ¬(settings.mode = .duration ∧ (settings.smart ≠ none ∨ settings.leadingUnit ≠ .hours)) := by
  have suppressed : settings.isDateSuppressed = true ↔
      settings.mode = .duration ∧ (settings.smart ≠ none ∨ settings.leadingUnit ≠ .hours) := by
    simp [isDateSuppressed, isDuration, Option.isSome_iff_ne_none]
  rw [← suppressed, datePlan?]
  cases settings.useDate <;> cases settings.isDateSuppressed <;> simp

theorem hasCalendarParts_iff : settings.format.hasCalendarParts = true ↔ settings.datePlan?.isSome = true := by
  by_cases byHand : settings.isDuration = false ∨ settings.smart = none
  · rw [format_eq_manualBlock byHand, ← isCalendar_manualPlan_iff]
    simp [DateTimeFormat.hasCalendarParts, DateTimeFormat.parts, manualBlock]
  · rw [not_or, Bool.not_eq_false] at byHand
    obtain ⟨preset, chosen⟩ := Option.ne_none_iff_exists'.mp byHand.2
    have dateless : settings.datePlan? = none := by simp [datePlan?, isDateSuppressed, byHand.1, chosen]
    rw [format_eq_preset byHand.1 chosen, preset.hasCalendarParts_format, dateless]
    rfl

theorem elapsed_notMem_of_clock (clock : settings.mode = .clock) (counting : ElapsedPart) :
    .elapsed counting ∉ settings.manualBlock.parts := by
  intro inside
  have duration := (elapsed_of_mem_manualPlan inside).1
  rw [clock] at duration
  cases duration

theorem isElapsed_of_clock (clock : settings.mode = .clock) : settings.format.isElapsed = false := by
  rw [Bool.eq_false_iff]
  intro elapsed
  obtain ⟨block, within, counting, inside⟩ := DateTimeFormat.exists_elapsed_of_isElapsed elapsed
  rw [format_eq_manualBlock (.inl (isDuration_of_clock clock)), List.mem_singleton] at within
  rw [within] at inside
  exact elapsed_notMem_of_clock clock counting inside

/-- A date is shown just where it is wanted and no duration forbids it. A clock is one section in which nothing
counts on. A duration tells no half of the day, and in each section at most one part counts on, before all other
numbers of the time; without a preset it is the leading unit, if its format does not hide that, and no longer unit
is shown. -/
theorem format_hierarchy (settings : DateTimeSettings) :
    (settings.format.hasCalendarParts = true ↔ settings.useDate = true ∧
      ¬(settings.mode = .duration ∧ (settings.smart ≠ none ∨ settings.leadingUnit ≠ .hours))) ∧
    (settings.mode = .clock → ∃ block, settings.format.sections = [block] ∧
      ∀ counting, .elapsed counting ∉ block.parts) ∧
    (settings.mode = .duration →
      (∀ block ∈ settings.format.sections, (∀ style, .amPm style ∉ block.parts) ∧
        block.parts.countP FormatPart.isElapsed ≤ 1 ∧
        block.parts.Pairwise fun earlier later => later.isElapsed = true → earlier.timeUnit? = none) ∧
      (settings.smart = none → ∃ block, settings.format.sections = [block] ∧
        block.elapsed?.map ElapsedPart.unit =
          (if settings.useTime = true ∧ settings.Displays settings.leadingUnit then
            some settings.leadingUnit else none) ∧
        ∀ part ∈ block.parts, ∀ unit, part.timeUnit? = some unit → unit ∈ settings.leadingUnit.downwards)) := by
  refine ⟨hasCalendarParts_iff.trans datePlan?_isSome_iff, fun clock => ?_,
    fun duration => ⟨fun block member => ?_, fun byHand => ?_⟩⟩
  · refine ⟨settings.manualBlock, ?_, elapsed_notMem_of_clock clock⟩
    rw [format_eq_manualBlock (.inl (isDuration_of_clock clock))]
  · have counts := isDuration_of_mode duration
    have rules : block.hasAmPm = false ∧ block.parts.Pairwise MayPrecede := by
      cases chosen : settings.smart with
      | some preset =>
        rw [format_eq_preset counts chosen] at member
        exact preset.ordered_format block member
      | none =>
        rw [format_eq_manualBlock (.inr chosen)] at member
        rw [List.mem_singleton.mp member]
        refine ⟨List.any_eq_false.mpr fun part inside => ?_, settings.ordered_manualPlan⟩
        rw [isAmPm_manualPlan counts inside]
        exact Bool.false_ne_true
    refine ⟨fun style inside => ?_, FormatPart.countP_isElapsed rules.2, rules.2⟩
    exact List.any_eq_false.mp rules.1 _ inside rfl
  · refine ⟨settings.manualBlock, by rw [format_eq_manualBlock (.inr byHand)], ?_, fun part inside unit tells => ?_⟩
    · have leading := settings.elapsed?_manualBlock
      simp only [duration, true_and] at leading
      exact leading
    · have within := timeUnit?_manualPlan inside tells
      rwa [modeUnits_of_duration duration] at within

/-- A duration in minutes shows its minutes, but neither the hours that are kept in its settings nor the date they
want, and counts on in nothing if it hides its minutes; the same as a clock; and a preset in place of it. -/
theorem format_hierarchy_minutes :
    let settings : DateTimeSettings := {
      mode := .duration, leadingUnit := .minutes, secondFormat := .paddedCentis, twelveHours := true }
    let hidden := { settings with minuteFormat := .hidden }
    let clock := { settings with mode := .clock }
    let preset := { settings with smart := some .timer }
    settings.format.hasCalendarParts = false ∧ clock.format.hasCalendarParts = true ∧
    (∃ block, clock.format.sections = [block] ∧ ∀ counting, .elapsed counting ∉ block.parts) ∧
    (∃ block, settings.format.sections = [block] ∧ block.elapsed? = some .minutes ∧
      (∀ style, .amPm style ∉ block.parts) ∧
      ∀ part ∈ block.parts, ∀ unit, part.timeUnit? = some unit → unit ≠ .hours) ∧
    (∃ block, hidden.format.sections = [block] ∧ block.elapsed? = none) ∧
    ∀ block ∈ preset.format.sections, block.parts.countP FormatPart.isElapsed ≤ 1 ∧
      block.parts.Pairwise fun earlier later => later.isElapsed = true → earlier.timeUnit? = none := by
  intro settings hidden clock preset
  obtain ⟨dated, -, rules⟩ := settings.format_hierarchy
  obtain ⟨clockDated, clockRules, -⟩ := clock.format_hierarchy
  obtain ⟨each, single⟩ := rules rfl
  obtain ⟨block, sections, leading, units⟩ := single rfl
  obtain ⟨bare, bareSections, bareLeading, -⟩ := (hidden.format_hierarchy.2.2 rfl).2 rfl
  refine ⟨?_, clockDated.mpr (by decide), clockRules rfl,
    ⟨block, sections, ?_, (each block (by rw [sections]; exact List.mem_singleton_self block)).1, ?_⟩,
    ⟨bare, bareSections, ?_⟩, fun block member => ((preset.format_hierarchy.2.2 rfl).1 block member).2⟩
  · rw [Bool.eq_false_iff, ne_eq, dated]
    decide
  · rw [if_pos (by decide)] at leading
    obtain ⟨counting, found, unit⟩ := Option.map_eq_some_iff.mp leading
    rw [found]
    cases counting <;> first | rfl | cases unit
  · rintro part member unit tells rfl
    exact absurd (units part member _ tells) (by decide)
  · rw [if_neg (by decide)] at bareLeading
    exact Option.map_eq_none_iff.mp bareLeading

end DateTimeSettings

end CellFormat

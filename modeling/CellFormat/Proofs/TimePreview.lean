import CellFormat.DateTime.Preview
import CellFormat.Proofs.FormatCodeUnique
import CellFormat.Proofs.ShownUnits

/-!
What the units of a time show: each its number in its style and then its suffix. A section of units counts
hundredths where the seconds have them, and counts on in the unit that leads a duration.
-/

namespace CellFormat

/-- The unit that a part counts on in. -/
def ElapsedPart.unit : ElapsedPart → TimeUnit
  | hours => .hours
  | minutes => .minutes
  | seconds | seconds2 => .seconds

namespace TimeUnit

/-- What a unit shows of a number of seconds: the leading one takes in all longer units, and another is what is
left below the next longer. -/
def number (unit leading : TimeUnit) (seconds : Nat) : Nat :=
  if unit = leading then seconds / unit.length else seconds / unit.length % 60

theorem number_seconds (leading : TimeUnit) (count : Nat) :
    seconds.number leading count = if seconds = leading then count else count % 60 := by
  rw [number, length, Nat.div_one]

end TimeUnit

/-- The number that is shown for a unit. -/
def TimeFields.number (fields : TimeFields) : TimeUnit → Nat
  | .hours => fields.hours
  | .minutes => fields.minutes
  | .seconds => fields.seconds

/-- A number in a style. One that counts on without end is filled up only where decimals follow. -/
def UnitStyle.text (style : UnitStyle) (leading : Bool) (locale : Locale) (number hundredths : Nat) :
    List Char :=
  match style with
  | plain => decimalDigits number
  | padded => if leading then decimalDigits number else paddedDigits 2 number
  | paddedCentis => paddedDigits 2 number ++ locale.decimalMark :: paddedDigits 2 hundredths

/-- What parts show one after the other, where the half of the day is not told. -/
def previewOf (locale : Locale) (date : Date) (fields : TimeFields) (parts : List FormatPart) : String :=
  String.join (parts.map fun part => part.preview locale date fields false)

theorem previewOf_append (locale : Locale) (date : Date) (fields : TimeFields)
    (first second : List FormatPart) : previewOf locale date fields (first ++ second) =
      previewOf locale date fields first ++ previewOf locale date fields second := by
  rw [previewOf, List.map_append, String.join_append]
  rfl

theorem previewOf_flatMap {α : Type} {items : List α} {parts : α → List FormatPart} {text : α → String}
    {locale : Locale} {date : Date} {fields : TimeFields}
    (each : ∀ item ∈ items, previewOf locale date fields (parts item) = text item) :
    previewOf locale date fields (items.flatMap parts) = String.join (items.map text) := by
  induction items with
  | nil => rfl
  | cons item items ih =>
    rw [List.flatMap_cons, previewOf_append, each item List.mem_cons_self, List.map_cons, String.join_cons,
      ih fun later member => each later (List.mem_cons_of_mem _ member)]

/-- Whether a part is neither a number of a time nor the half of the day. -/
def FormatPart.IsUntimed (part : FormatPart) : Prop :=
  part.elapsed? = none ∧ part.subSecond? = none ∧ part.isAmPm = false

namespace DatePlan

def text (plan : DatePlan) (locale : Locale) (date : Date) : String :=
  plan.separator.intercalate (plan.calendarParts.map fun part => part.preview locale date)

theorem untimed_of_mem {plan : DatePlan} {part : FormatPart} (member : part ∈ plan.parts) : part.IsUntimed := by
  rcases DatePlan.mem_parts member with between | ⟨calendar, rfl⟩
  · unfold separatorParts at between
    split at between
    · simp at between
    · split at between <;> rw [List.mem_singleton.mp between] <;> exact ⟨rfl, rfl, rfl⟩
  · exact ⟨rfl, rfl, rfl⟩

theorem previewOf_parts (plan : DatePlan) (locale : Locale) (date : Date) (fields : TimeFields) :
    previewOf locale date fields plan.parts = plan.text locale date := by
  have separator : previewOf locale date fields plan.separatorParts = plan.separator := by
    unfold separatorParts
    split
    · next empty => exact empty.symm
    · split
      · next space => rw [space]; rfl
      · simp [previewOf, FormatPart.preview]
  have calendar : ∀ (part : CalendarPart) rest, previewOf locale date fields (.calendar part :: rest) =
      part.preview locale date ++ previewOf locale date fields rest := fun _ _ => String.join_cons
  obtain ⟨first, second, third, three, _⟩ := plan.exists_calendarParts
  rw [parts_eq three, text, three]
  simp only [calendar, previewOf_append, separator]
  simp [previewOf, String.intercalate_cons_cons, String.append_assoc]

end DatePlan

namespace UnitPlan

/-- Only seconds have decimals. -/
def WellFormed (plan : UnitPlan) : Prop := plan.style = .paddedCentis → plan.unit = .seconds

def text (plan : UnitPlan) (locale : Locale) (fields : TimeFields) : String :=
  String.ofList (plan.style.text plan.accumulating locale (fields.number plan.unit) fields.fraction) ++ plan.suffix

/-- The parts of a unit: its suffix, and for its number parts of the clock, the hundredths, or a part that counts
on where the unit does. -/
theorem mem_parts {plan : UnitPlan} {part : FormatPart} (member : part ∈ plan.parts) :
    (part = .separator plan.suffix ∨ part = .literal plan.suffix) ∨ (∃ clock, part = .clock clock) ∨
      part = .subSecond 2 ∨
      plan.accumulating = true ∧
        ∃ counting : ElapsedPart, counting.unit = plan.unit ∧ part = .elapsed counting := by
  rw [parts, List.mem_append] at member
  rcases member with number | suffix
  · right
    obtain ⟨unit, style, accumulating, suffix⟩ := plan
    cases unit <;> cases style <;> cases accumulating <;>
      simp only [numberParts, List.mem_cons, List.not_mem_nil, or_false] at number <;> grind [ElapsedPart.unit]
  · left
    unfold suffixParts at suffix
    split at suffix
    · simp at suffix
    · split at suffix
      · exact .inl (List.mem_singleton.mp suffix)
      · exact .inr (List.mem_singleton.mp suffix)

theorem elapsed?_of_mem {plan : UnitPlan} {part : FormatPart} (member : part ∈ plan.parts)
    {counting : ElapsedPart} (counts : part.elapsed? = some counting) :
    plan.accumulating = true ∧ counting.unit = plan.unit := by
  rcases mem_parts member with (rfl | rfl) | ⟨_, rfl⟩ | rfl | ⟨accumulating, _, unit, rfl⟩ <;> cases counts
  exact ⟨accumulating, unit⟩

/-- A unit that does not count on has no part that does. -/
theorem elapsed?_eq_none {plan : UnitPlan} (steady : plan.accumulating = false) {part : FormatPart}
    (member : part ∈ plan.parts) : part.elapsed? = none := by
  rw [Option.eq_none_iff_forall_ne_some]
  intro counting counts
  rw [(elapsed?_of_mem member counts).1] at steady
  cases steady

theorem subSecond?_of_mem {plan : UnitPlan} {part : FormatPart} (member : part ∈ plan.parts) {places : UInt8}
    (counts : part.subSecond? = some places) : places = 2 := by
  rcases mem_parts member with (rfl | rfl) | ⟨_, rfl⟩ | rfl | ⟨_, _, _, rfl⟩ <;> cases counts
  rfl

/-- A unit without hundredths has no decimals. -/
theorem subSecond?_eq_none {plan : UnitPlan} (without : plan.style ≠ .paddedCentis) {part : FormatPart}
    (member : part ∈ plan.parts) : part.subSecond? = none := by
  rw [parts, List.mem_append] at member
  obtain ⟨unit, style, accumulating, suffix⟩ := plan
  rcases member with number | behind
  · cases style with
    | paddedCentis => exact absurd rfl without
    | plain | padded =>
      cases unit <;> cases accumulating <;> rw [List.mem_singleton.mp number] <;> rfl
  · unfold suffixParts at behind
    split at behind
    · cases behind
    · split at behind <;> rw [List.mem_singleton.mp behind] <;> rfl

theorem isAmPm_of_mem {plan : UnitPlan} {part : FormatPart} (member : part ∈ plan.parts) :
    part.isAmPm = false := by
  rcases mem_parts member with (rfl | rfl) | ⟨_, rfl⟩ | rfl | ⟨_, _, _, rfl⟩ <;> rfl

theorem exists_elapsed {plan : UnitPlan} (accumulating : plan.accumulating = true) :
    ∃ counting, .elapsed counting ∈ plan.parts := by
  obtain ⟨unit, style, _, suffix⟩ := plan
  cases accumulating
  cases unit <;> cases style <;> exact ⟨_, List.mem_cons_self⟩

theorem subSecond_mem {plan : UnitPlan} (wellFormed : plan.WellFormed) (centis : plan.style = .paddedCentis) :
    .subSecond 2 ∈ plan.parts := by
  obtain ⟨unit, style, accumulating, suffix⟩ := plan
  cases centis
  cases wellFormed rfl
  cases accumulating <;> exact List.mem_cons_of_mem _ List.mem_cons_self

theorem previewOf_suffixParts (plan : UnitPlan) (locale : Locale) (date : Date) (fields : TimeFields) :
    previewOf locale date fields plan.suffixParts = plan.suffix := by
  unfold suffixParts
  split
  · next empty =>
    rw [String.isEmpty_iff.mp empty]
    rfl
  · split <;> simp [previewOf, FormatPart.preview]

theorem previewOf_parts {plan : UnitPlan} (wellFormed : plan.WellFormed) {fields : TimeFields}
    (counted : plan.style = .paddedCentis → fields.places = 2 ∧ fields.precision = 2) (locale : Locale)
    (date : Date) : previewOf locale date fields plan.parts = plan.text locale fields := by
  rw [parts, previewOf_append, previewOf_suffixParts, text]
  obtain ⟨unit, style, accumulating, suffix⟩ := plan
  congr 1
  cases style with
  | plain | padded =>
    cases unit <;> cases accumulating <;>
      simp [numberParts, previewOf, FormatPart.preview, TimeFields.clockDigits, TimeFields.elapsedDigits,
        UnitStyle.text, TimeFields.number]
  | paddedCentis =>
    obtain ⟨places, precision⟩ := counted rfl
    cases wellFormed rfl
    cases accumulating <;>
      simp [numberParts, previewOf, FormatPart.preview, TimeFields.clockDigits, TimeFields.elapsedDigits,
        TimeFields.subSecondText, UnitStyle.text, TimeFields.number, places, precision]

end UnitPlan

namespace FormatSection

theorem precision_eq_zero {block : FormatSection} (without : ∀ part ∈ block.parts, part.subSecond? = none) :
    block.precision = 0 := by
  rw [precision, subSecondPlaces, List.findSome?_eq_none_iff.mpr without]
  rfl

/-- Under a part that counts on, the units from its own downwards show their numbers. -/
theorem number_of_elapsed {block : FormatSection} {counting : ElapsedPart}
    (found : block.elapsed? = some counting) {unit : TimeUnit}
    (below : unit.isAbove counting.unit = false) (mode : DateTimeMode) (seconds : Binary64) :
    (block.timeFields mode seconds).number unit =
      unit.number counting.unit (block.ticks seconds / block.ticksPerSecond) := by
  unfold timeFields
  simp only [found]
  cases unit with
  | hours | minutes => cases counting <;> first | rfl | cases below
  | seconds =>
    rw [TimeUnit.number_seconds]
    cases counting <;> rfl

/-- Where no part counts on, minutes and seconds are what is left below the next longer unit. -/
theorem number_of_not_elapsed {block : FormatSection} (found : block.elapsed? = none) {unit leading : TimeUnit}
    (short : unit ≠ .hours) (follows : unit ≠ leading) (mode : DateTimeMode) (seconds : Binary64) :
    (block.timeFields mode seconds).number unit =
      unit.number leading (block.ticks seconds / block.ticksPerSecond) := by
  unfold timeFields
  simp only [found]
  cases unit with
  | hours => exact absurd rfl short
  | minutes =>
    rw [TimeUnit.number, if_neg follows]
    cases mode <;> rfl
  | seconds =>
    rw [TimeUnit.number_seconds, if_neg follows]
    cases mode <;> rfl

/-- Where no part counts on, a clock starts anew after a day. -/
theorem number_of_clock {block : FormatSection} (found : block.elapsed? = none) (unit : TimeUnit)
    (seconds : Binary64) : (block.timeFields .clock seconds).number unit =
      unit.number .hours (block.ticks seconds / block.ticksPerSecond % 86400) := by
  unfold timeFields
  simp only [found]
  cases unit with
  | hours | minutes =>
    simp only [TimeFields.number, TimeUnit.number, TimeUnit.length, reduceCtorEq, if_true, if_false]
    omega
  | seconds =>
    rw [TimeUnit.number_seconds, if_neg (by decide)]
    exact (Nat.mod_mod_of_dvd _ (by decide)).symm

end FormatSection

/-- A section of units behind parts that tell no time. -/
def timeSection (opening : List FormatPart) (units : List UnitPlan) : FormatSection :=
  { parts := opening ++ units.flatMap UnitPlan.parts }

section TimeSection

variable {opening : List FormatPart} (untimed : ∀ part ∈ opening, part.IsUntimed) (units : List UnitPlan)

include untimed

theorem hasAmPm_timeSection : (timeSection opening units).hasAmPm = false := by
  simp only [FormatSection.hasAmPm, timeSection, List.any_eq_false, List.mem_append, List.mem_flatMap]
  rintro part (before | ⟨plan, _, inside⟩)
  · rw [(untimed part before).2.2]
    exact Bool.false_ne_true
  · rw [UnitPlan.isAmPm_of_mem inside]
    exact Bool.false_ne_true

/-- A section counts on in a unit that does so, or else no unit of it does. -/
theorem elapsed?_timeSection : (∃ counting, (timeSection opening units).elapsed? = some counting ∧
      ∃ plan ∈ units, plan.accumulating = true ∧ counting.unit = plan.unit) ∨
    (timeSection opening units).elapsed? = none ∧ ∀ plan ∈ units, plan.accumulating = false := by
  cases found : (timeSection opening units).elapsed? with
  | some counting =>
    left
    obtain ⟨part, member, counts⟩ := List.exists_of_findSome?_eq_some found
    rcases List.mem_append.mp member with before | behind
    · rw [(untimed part before).1] at counts
      cases counts
    · obtain ⟨plan, within, inside⟩ := List.mem_flatMap.mp behind
      obtain ⟨accumulating, unit⟩ := UnitPlan.elapsed?_of_mem inside counts
      exact ⟨counting, rfl, plan, within, accumulating, unit⟩
  | none =>
    refine .inr ⟨rfl, fun plan within => Bool.eq_false_iff.mpr fun accumulating => ?_⟩
    obtain ⟨counting, inside⟩ := UnitPlan.exists_elapsed accumulating
    have nothing := List.findSome?_eq_none_iff.mp found (.elapsed counting)
      (List.mem_append_right _ (List.mem_flatMap.mpr ⟨plan, within, inside⟩))
    cases nothing

theorem subSecondPlaces_timeSection :
    (timeSection opening units).subSecondPlaces = 2 ∨ (timeSection opening units).subSecondPlaces = 0 ∧
      ∀ plan ∈ units, plan.WellFormed → plan.style ≠ .paddedCentis := by
  unfold FormatSection.subSecondPlaces
  cases found : (timeSection opening units).parts.findSome? FormatPart.subSecond? with
  | some places =>
    left
    obtain ⟨part, member, counts⟩ := List.exists_of_findSome?_eq_some found
    rcases List.mem_append.mp member with before | behind
    · rw [(untimed part before).2.1] at counts
      cases counts
    · obtain ⟨plan, _, inside⟩ := List.mem_flatMap.mp behind
      exact UnitPlan.subSecond?_of_mem inside counts
  | none =>
    refine .inr ⟨rfl, fun plan within wellFormed centis => ?_⟩
    have nothing := List.findSome?_eq_none_iff.mp found (.subSecond 2)
      (List.mem_append_right _ (List.mem_flatMap.mpr ⟨plan, within, UnitPlan.subSecond_mem wellFormed centis⟩))
    cases nothing

theorem precision_timeSection : (timeSection opening units).precision = 0 ∨
    (timeSection opening units).precision = 2 := by
  rcases subSecondPlaces_timeSection untimed units with places | ⟨places, _⟩
  · exact .inr (by rw [FormatSection.precision, places]; rfl)
  · exact .inl (by rw [FormatSection.precision, places]; rfl)

theorem preview_timeSection {units : List UnitPlan} (wellFormed : ∀ plan ∈ units, plan.WellFormed)
    (locale : Locale) (date : Date) (mode : DateTimeMode) (seconds : Binary64) :
    let fields := (timeSection opening units).timeFields mode seconds
    (timeSection opening units).preview locale date fields = previewOf locale date fields opening ++
      String.join (units.map fun plan => plan.text locale fields) := by
  intro fields
  have shown : (timeSection opening units).preview locale date fields =
      previewOf locale date fields (opening ++ units.flatMap UnitPlan.parts) := by
    rw [FormatSection.preview, hasAmPm_timeSection untimed units]
    rfl
  have counted : ∀ plan ∈ units, plan.style = .paddedCentis → fields.places = 2 ∧ fields.precision = 2 := by
    intro plan within centis
    rcases subSecondPlaces_timeSection untimed units with places | ⟨_, never⟩
    · exact ⟨places, by simp [fields, FormatSection.timeFields, FormatSection.precision, places, maxPrecision]⟩
    · exact absurd centis (never plan within (wellFormed plan within))
  rw [shown, previewOf_append, previewOf_flatMap fun plan within =>
    UnitPlan.previewOf_parts (wellFormed plan within) (counted plan within) locale date]

end TimeSection

namespace DateTimeSettings

/-- What the shown units show with a number each. -/
def unitsText (settings : DateTimeSettings) (locale : Locale) (number : TimeUnit → Nat) (hundredths : Nat) :
    String :=
  String.join (settings.shownUnits.map fun plan =>
    String.ofList (plan.style.text plan.accumulating locale (number plan.unit) hundredths) ++ plan.suffix)

variable {settings : DateTimeSettings}

theorem wellFormed_of_shown {plan : UnitPlan} (member : plan ∈ settings.shownUnits) : plan.WellFormed :=
  fun centis => (centis_of_formatted (mem_shownUnits.mp member).2 centis).1

theorem timePlan?_eq (timed : settings.useTime = true) : settings.timePlan? =
    if settings.shownUnits = [] then none
    else some ⟨settings.shownUnits, settings.amPm?⟩ := by
  rw [timePlan?, if_pos timed, filterMap_unitPlan?]
  cases settings.shownUnits <;> rfl

/-- The date, and the space between it and the time. -/
def dateText (settings : DateTimeSettings) (locale : Locale) (date : Date) : String :=
  match settings.datePlan? with
  | some plan => plan.text locale date ++ " "
  | none => ""

/-- The parts before the time: the locale tag, and the date with the space behind it. -/
def openingParts (settings : DateTimeSettings) : List FormatPart :=
  (settings.manualPlan.locale.map FormatPart.locale).toList ++
    match settings.datePlan? with
    | some plan => plan.parts ++ [.separator " "]
    | none => []

/-- The one section of settings without a preset. -/
def timeBlock (settings : DateTimeSettings) : FormatSection :=
  timeSection settings.openingParts settings.shownUnits

theorem untimed_openingParts (settings : DateTimeSettings) : ∀ part ∈ settings.openingParts, part.IsUntimed := by
  intro part member
  unfold openingParts at member
  rcases List.mem_append.mp member with tag | shown
  · obtain ⟨content, _, rfl⟩ := Option.map_eq_some_iff.mp (Option.mem_toList.mp tag)
    exact ⟨rfl, rfl, rfl⟩
  · split at shown
    · rcases List.mem_append.mp shown with date | space
      · exact DatePlan.untimed_of_mem date
      · rw [List.mem_singleton.mp space]
        exact ⟨rfl, rfl, rfl⟩
    · simp at shown

theorem previewOf_openingParts (settings : DateTimeSettings) (locale : Locale) (date : Date)
    (fields : TimeFields) : previewOf locale date fields settings.openingParts = settings.dateText locale date := by
  have tag : previewOf locale date fields (settings.manualPlan.locale.map FormatPart.locale).toList = "" := by
    cases settings.manualPlan.locale <;> rfl
  rw [openingParts, previewOf_append, tag, String.empty_append, dateText]
  cases settings.datePlan? with
  | none => rfl
  | some plan =>
    rw [previewOf_append, DatePlan.previewOf_parts]
    rfl

/-- Only a duration can have a preset in place of the plan. -/
theorem plan_eq_manualPlan (byHand : settings.isDuration = false ∨ settings.smart = none) :
    settings.plan = .manual settings.manualPlan := by
  unfold plan
  split
  · next duration chosen =>
    rcases byHand with clock | free
    · rw [clock] at duration
      cases duration
    · rw [free] at chosen
      cases chosen
  · rfl

/-- The section of settings without a preset and without halves of the day, if a date does not stand alone. -/
theorem format_eq_timeBlock (manual : settings.plan = .manual settings.manualPlan)
    (timed : settings.useTime = true) (whole : settings.amPm? = none)
    (followed : settings.datePlan? = none ∨ settings.shownUnits ≠ []) :
    settings.format = ⟨[settings.timeBlock]⟩ := by
  have parts : settings.manualPlan.parts = settings.openingParts ++
      settings.shownUnits.flatMap UnitPlan.parts := by
    have time := timePlan?_eq timed
    rw [whole] at time
    rw [ManualPlan.parts_eq, openingParts, List.append_assoc, ManualPlan.shownParts]
    simp only [manualPlan, time]
    congr 1
    cases date : settings.datePlan? with
    | none =>
      by_cases empty : settings.shownUnits = [] <;> simp [empty, ManualPlan.timeParts, TimePlan.parts]
    | some plan =>
      rw [date] at followed
      have shown : settings.shownUnits ≠ [] := followed.resolve_left (Option.some_ne_none plan)
      simp [shown, ManualPlan.laterParts, TimePlan.parts]
  rw [format, manual, DateTimePlan.format, parts]
  rfl

/-- What settings show without a preset, given the numbers of the units. -/
theorem preview_eq_unitsText (single : settings.format = ⟨[settings.timeBlock]⟩) (locale : Locale)
    {sample : Sample} {fields : TimeFields}
    (counted : settings.timeBlock.timeFields settings.mode (sample.seconds settings.mode) = fields)
    (number : TimeUnit → Nat)
    (numbers : ∀ plan ∈ settings.shownUnits, fields.number plan.unit = number plan.unit) :
    settings.preview locale sample = (if sample.isNegative settings.mode then "-" else "") ++
      (settings.dateText locale sample.date ++ settings.unitsText locale number fields.fraction) := by
  have texts : settings.shownUnits.map (fun plan => plan.text locale fields) = settings.shownUnits.map fun plan =>
      String.ofList (plan.style.text plan.accumulating locale (number plan.unit) fields.fraction) ++ plan.suffix := by
    refine List.map_congr_left fun plan member => ?_
    rw [UnitPlan.text, numbers plan member]
  have body : settings.timeBlock.preview locale sample.date fields =
      settings.dateText locale sample.date ++ settings.unitsText locale number fields.fraction := by
    rw [unitsText, ← texts, ← settings.previewOf_openingParts locale sample.date fields, ← counted]
    exact preview_timeSection settings.untimed_openingParts (fun _ => wellFormed_of_shown) locale sample.date _ _
  rw [preview, single, DateTimeFormat.preview, ← body]
  simp only [DateTimeFormat.section?, counted]
  split
  · rfl
  · rw [String.empty_append]

end DateTimeSettings

end CellFormat

import CellFormat.DateTime.Plan
import Mathlib.Data.List.Basic

/-!
The units of a time that settings show, told by the formats of the units and the leading one alone: each unit in the
style that its own format names, and in a duration none above the unit that leads it. The plan of the settings finds
the same units by its lookups.
-/

namespace CellFormat

namespace TimeUnit

/-- A unit and the shorter ones. -/
def downwards : TimeUnit → List TimeUnit
  | hours => [hours, minutes, seconds]
  | minutes => [minutes, seconds]
  | seconds => [seconds]

theorem mem_downwards {unit leading : TimeUnit} : unit ∈ leading.downwards ↔ unit.isAbove leading = false := by
  cases unit <;> cases leading <;> decide

theorem filter_isAbove (leading : TimeUnit) : (all.filter fun unit => !unit.isAbove leading) = leading.downwards := by
  cases leading <;> rfl

theorem follows_downwards (leading : TimeUnit) : leading.downwards.Pairwise fun _ later => later ≠ leading := by
  cases leading <;> decide

end TimeUnit

namespace DateTimeSettings

/-- Whether a unit leads a duration. -/
def isLeading (settings : DateTimeSettings) (unit : TimeUnit) : Bool :=
  decide (settings.mode = .duration ∧ unit = settings.leadingUnit)

/-- Whether the format of a unit does not hide it. -/
def Displays (settings : DateTimeSettings) : TimeUnit → Prop
  | .hours => settings.hourFormat ≠ .hidden
  | .minutes => settings.minuteFormat ≠ .hidden
  | .seconds => settings.secondFormat ≠ .hidden

instance (settings : DateTimeSettings) : DecidablePred settings.Displays
  | .hours => inferInstanceAs (Decidable (settings.hourFormat ≠ .hidden))
  | .minutes => inferInstanceAs (Decidable (settings.minuteFormat ≠ .hidden))
  | .seconds => inferInstanceAs (Decidable (settings.secondFormat ≠ .hidden))

/-- A unit as its own format writes it, which is nothing where the format hides it: a number as it is, one of two digits
where the format has its letter twice, or one with hundredths besides, and then the suffix. -/
def formattedUnit? (settings : DateTimeSettings) (unit : TimeUnit) : Option UnitPlan :=
  let shown (style : UnitStyle) (suffix : String) : Option UnitPlan :=
    some { unit, style, accumulating := settings.isLeading unit, suffix }
  match unit with
  | .hours =>
    match settings.hourFormat with
    | .hidden => none
    | .plain => shown .plain settings.hourSuffix
    | .padded => shown .padded settings.hourSuffix
  | .minutes =>
    match settings.minuteFormat with
    | .hidden => none
    | .plain => shown .plain settings.minuteSuffix
    | .padded => shown .padded settings.minuteSuffix
  | .seconds =>
    match settings.secondFormat with
    | .hidden => none
    | .plain => shown .plain settings.secondSuffix
    | .padded => shown .padded settings.secondSuffix
    | .paddedCentis => shown .paddedCentis settings.secondSuffix

/-- The units that the mode has: a clock all of them, and a duration the leading one and the shorter ones. -/
def modeUnits (settings : DateTimeSettings) : List TimeUnit :=
  match settings.mode with
  | .clock => [.hours, .minutes, .seconds]
  | .duration => settings.leadingUnit.downwards

/-- The units that are shown, the longest first: of those that the mode has the ones that are not hidden. -/
def shownUnits (settings : DateTimeSettings) : List UnitPlan := settings.modeUnits.filterMap settings.formattedUnit?

variable {settings : DateTimeSettings}

theorem isDuration_of_clock (clock : settings.mode = .clock) : settings.isDuration = false := by
  rw [isDuration, clock]
  rfl

theorem isDuration_of_mode (duration : settings.mode = .duration) : settings.isDuration = true := by
  rw [isDuration, duration]
  rfl

theorem isLeading_iff {unit : TimeUnit} :
    settings.isLeading unit = true ↔ settings.mode = .duration ∧ unit = settings.leadingUnit := by
  rw [isLeading, decide_eq_true_iff]

theorem isLeading_of_clock (clock : settings.mode = .clock) (unit : TimeUnit) : settings.isLeading unit = false := by
  simp [isLeading, clock]

theorem isLeading_eq (settings : DateTimeSettings) (unit : TimeUnit) :
    settings.isLeading unit = (settings.isDuration && unit == settings.leadingUnit) := by
  rw [Bool.eq_iff_iff, isLeading_iff]
  simp [isDuration]

theorem modeUnits_of_clock (clock : settings.mode = .clock) :
    settings.modeUnits = [.hours, .minutes, .seconds] := by
  rw [modeUnits, clock]

theorem modeUnits_of_duration (duration : settings.mode = .duration) :
    settings.modeUnits = settings.leadingUnit.downwards := by
  rw [modeUnits, duration]

theorem leadingUnit_mem_modeUnits (settings : DateTimeSettings) : settings.leadingUnit ∈ settings.modeUnits := by
  unfold modeUnits
  cases settings.mode <;> cases settings.leadingUnit <;> decide

/-- No unit but the first leads. -/
theorem steady_modeUnits (settings : DateTimeSettings) :
    settings.modeUnits.Pairwise fun _ later => settings.isLeading later = false := by
  unfold modeUnits
  cases mode : settings.mode with
  | clock => exact List.pairwise_of_forall fun _ later => isLeading_of_clock mode later
  | duration =>
    refine (TimeUnit.follows_downwards _).imp fun follows => Bool.eq_false_iff.mpr fun leads => ?_
    exact follows (isLeading_iff.mp leads).2

/-- The lookup of styles finds what the formats name. -/
theorem formattedUnit?_eq (settings : DateTimeSettings) (unit : TimeUnit) : settings.formattedUnit? unit =
    (settings.unitStyle? unit).map fun style =>
      { unit, style, accumulating := settings.isLeading unit, suffix := settings.unitSuffix unit } := by
  unfold formattedUnit? unitStyle?
  cases unit with
  | hours => cases settings.hourFormat <;> rfl
  | minutes => cases settings.minuteFormat <;> rfl
  | seconds => cases settings.secondFormat <;> rfl

/-- The lookup of styles finds one just where the format does not hide the unit. -/
theorem displays_iff {unit : TimeUnit} : settings.Displays unit ↔ settings.unitStyle? unit ≠ none := by
  cases unit with
  | hours => cases hours : settings.hourFormat <;> simp [Displays, unitStyle?, hours, HourFormat.style?]
  | minutes => cases minutes : settings.minuteFormat <;> simp [Displays, unitStyle?, minutes, MinuteFormat.style?]
  | seconds => cases seconds : settings.secondFormat <;> simp [Displays, unitStyle?, seconds, SecondFormat.style?]

/-- The lookup allows just the units that the mode has. -/
theorem filter_isUnitAllowed (settings : DateTimeSettings) :
    TimeUnit.all.filter settings.isUnitAllowed = settings.modeUnits := by
  unfold modeUnits
  cases mode : settings.mode with
  | clock =>
    have every : settings.isUnitAllowed = fun _ => true := by
      funext unit
      rw [isUnitAllowed, isDuration_of_clock mode]
      rfl
    rw [every]
    rfl
  | duration =>
    have below : settings.isUnitAllowed = fun unit => !unit.isAbove settings.leadingUnit := by
      funext unit
      rw [isUnitAllowed, isDuration_of_mode mode]
      rfl
    rw [below, TimeUnit.filter_isAbove]

/-- The lookups plan the units that are shown. -/
theorem filterMap_unitPlan? (settings : DateTimeSettings) :
    TimeUnit.all.filterMap settings.unitPlan? = settings.shownUnits := by
  rw [shownUnits, ← filter_isUnitAllowed, List.filterMap_filter]
  congr 1
  funext unit
  rw [unitPlan?, formattedUnit?_eq, isLeading_eq]

section Formatted

variable {unit : TimeUnit} {plan : UnitPlan}

theorem formattedUnit?_eq_some_iff : settings.formattedUnit? unit = some plan ↔
    ∃ style, settings.unitStyle? unit = some style ∧
      { unit, style, accumulating := settings.isLeading unit, suffix := settings.unitSuffix unit } = plan := by
  rw [formattedUnit?_eq, Option.map_eq_some_iff]

theorem displays_of_formatted (found : settings.formattedUnit? unit = some plan) : settings.Displays unit := by
  obtain ⟨style, styled, _⟩ := formattedUnit?_eq_some_iff.mp found
  exact displays_iff.mpr (Option.ne_none_iff_exists'.mpr ⟨style, styled⟩)

theorem exists_formatted (displayed : settings.Displays unit) : ∃ plan, settings.formattedUnit? unit = some plan := by
  obtain ⟨style, styled⟩ := Option.ne_none_iff_exists'.mp (displays_iff.mp displayed)
  exact ⟨_, formattedUnit?_eq_some_iff.mpr ⟨style, styled, rfl⟩⟩

theorem unit_of_formatted (found : settings.formattedUnit? unit = some plan) : plan.unit = unit := by
  obtain ⟨_, _, rfl⟩ := formattedUnit?_eq_some_iff.mp found
  rfl

theorem accumulating_of_formatted (found : settings.formattedUnit? unit = some plan) :
    plan.accumulating = settings.isLeading unit := by
  obtain ⟨_, _, rfl⟩ := formattedUnit?_eq_some_iff.mp found
  rfl

/-- Hundredths belong to the seconds alone, where the format has them. -/
theorem centis_of_formatted (found : settings.formattedUnit? unit = some plan) (centis : plan.style = .paddedCentis) :
    unit = .seconds ∧ settings.secondFormat = .paddedCentis := by
  unfold formattedUnit? at found
  cases unit with
  | hours => cases hours : settings.hourFormat <;> rw [hours] at found <;> cases found <;> cases centis
  | minutes => cases minutes : settings.minuteFormat <;> rw [minutes] at found <;> cases found <;> cases centis
  | seconds =>
    refine ⟨rfl, ?_⟩
    cases seconds : settings.secondFormat with
    | paddedCentis => rfl
    | _ => rw [seconds] at found; cases found <;> cases centis

end Formatted

theorem mem_shownUnits {plan : UnitPlan} : plan ∈ settings.shownUnits ↔
    plan.unit ∈ settings.modeUnits ∧ settings.formattedUnit? plan.unit = some plan := by
  rw [shownUnits, List.mem_filterMap]
  constructor
  · rintro ⟨unit, member, found⟩
    rw [unit_of_formatted found]
    exact ⟨member, found⟩
  · exact fun ⟨member, found⟩ => ⟨plan.unit, member, found⟩

theorem accumulating_of_shown {plan : UnitPlan} (member : plan ∈ settings.shownUnits) :
    plan.accumulating = settings.isLeading plan.unit :=
  accumulating_of_formatted (mem_shownUnits.mp member).2

theorem map_unit_shownUnits (every : ∀ unit ∈ settings.modeUnits, settings.Displays unit) :
    settings.shownUnits.map UnitPlan.unit = settings.modeUnits := by
  have each : ∀ unit ∈ settings.modeUnits, (settings.formattedUnit? unit).map UnitPlan.unit = some unit := by
    intro unit member
    obtain ⟨plan, found⟩ := exists_formatted (every unit member)
    rw [found, Option.map_some, unit_of_formatted found]
  rw [shownUnits, List.map_filterMap, List.filterMap_congr each, List.filterMap_some]

end DateTimeSettings

end CellFormat

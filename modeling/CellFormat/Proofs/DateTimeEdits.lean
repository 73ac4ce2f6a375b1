import CellFormat.DateTime.Edit
import CellFormat.Proofs.UnitHierarchy

/-!
What editing keeps of a duration: the unit that counts on. It is lost where a preset is taken back that has hidden
all units, and where a hidden unit was made the leading one of a clock.
-/

namespace CellFormat

theorem intercalate_ne_empty {code : String} {codes : List String} (member : code ∈ codes) (written : code ≠ "") :
    ";".intercalate codes ≠ "" := by
  cases codes with
  | nil => cases member
  | cons first later =>
    cases later with
    | nil =>
      rw [String.intercalate_singleton, ← List.mem_singleton.mp member]
      exact written
    | cons second later =>
      intro empty
      simp [String.intercalate_cons_cons] at empty

namespace DateTimeFormat

variable {format : DateTimeFormat}

theorem isEmpty_of_isElapsed (elapsed : format.isElapsed = true) : format.isEmpty = false := by
  obtain ⟨block, within, counting, inside⟩ := exists_elapsed_of_isElapsed elapsed
  rw [isEmpty, List.all_eq_false]
  refine ⟨block, within, fun empty => ?_⟩
  rw [List.isEmpty_iff.mp empty] at inside
  cases inside

/-- What counts on is written in a bracket. -/
theorem code_ne_empty_of_isElapsed (elapsed : format.isElapsed = true) : format.code ≠ "" := by
  obtain ⟨block, within, counting, inside⟩ := exists_elapsed_of_isElapsed elapsed
  refine intercalate_ne_empty (List.mem_map_of_mem within) fun empty => ?_
  have bracket : '[' ∈ block.code.toList := by
    have opens : '[' ∈ counting.code.toList := by cases counting <;> decide
    rw [FormatSection.code, String.toList_append, String.toList_join]
    refine List.mem_append_right _ (List.mem_flatMap.mpr ⟨counting.code, ?_, opens⟩)
    exact List.mem_map.mpr ⟨_, inside, rfl⟩
  rw [empty] at bracket
  cases bracket

end DateTimeFormat

theorem SmartPreset.isElapsed_format (preset : SmartPreset) : preset.format.isElapsed = true := by
  cases preset <;> decide

namespace DateTimeSettings

variable {settings : DateTimeSettings}

/-- Whether a duration of these settings counts on in a unit, which needs a preset or a leading unit that is not
hidden. -/
def CountsOn (settings : DateTimeSettings) : Prop :=
  settings.smart ≠ none ∨ settings.unitStyle? settings.leadingUnit ≠ none

theorem isElapsed_iff_countsOn (duration : settings.mode = .duration) (timed : settings.useTime = true) :
    settings.format.isElapsed = true ↔ settings.CountsOn := by
  have counts := isDuration_of_mode duration
  cases chosen : settings.smart with
  | some preset => simp [format_eq_preset counts chosen, preset.isElapsed_format, CountsOn, chosen]
  | none =>
    have shows : settings.ShowsLeadingUnit ↔ settings.CountsOn := by
      simp [ShowsLeadingUnit, CountsOn, timed, chosen, displays_iff]
    rw [format_eq_manualBlock (.inr chosen), ← shows]
    constructor
    · intro elapsed
      obtain ⟨block, within, counting, inside⟩ := DateTimeFormat.exists_elapsed_of_isElapsed elapsed
      rw [List.mem_singleton.mp within] at inside
      exact (elapsed_of_mem_manualPlan inside).2.1
    · intro leads
      obtain ⟨counting, inside⟩ := exists_elapsed_mem_manualPlan duration leads
      refine List.any_eq_true.mpr ⟨.elapsed counting, ?_, rfl⟩
      exact List.mem_flatMap.mpr ⟨_, List.mem_singleton_self _, inside⟩

/-- The settings with all that edits can change put back. -/
def unedited (settings : DateTimeSettings) : DateTimeSettings :=
  { settings with
    mode := .clock, useDate := true, leadingUnit := .hours, smart := none
    hourFormat := .padded, minuteFormat := .padded, secondFormat := .hidden
    hourSuffix := ":", minuteSuffix := "" }

/-- An edit leaves alone what no edit chooses. -/
theorem unedited_edit (settings : DateTimeSettings) (edit : DateTimeEdit) :
    (settings.edit edit).unedited = settings.unedited := by
  cases edit with
  | mode mode => cases mode <;> rfl
  | leadingUnit unit =>
    simp only [DateTimeSettings.edit, withLeadingUnit]
    split
    · cases unit <;> rfl
    · rfl
  | smart preset => cases preset <;> rfl

theorem mode_withLeadingUnit (settings : DateTimeSettings) (unit : TimeUnit) :
    (settings.withLeadingUnit unit).mode = settings.mode := by
  simp only [withLeadingUnit]
  split
  · cases unit <;> rfl
  · rfl

theorem Reached.unedited_eq (reached : Reached settings) : settings.unedited = {} := by
  induction reached with
  | initial => rfl
  | edit edit _ ih => rw [unedited_edit, ih]

/-- No edit turns the time off. -/
theorem Reached.useTime (reached : Reached settings) : settings.useTime = true :=
  congrArg DateTimeSettings.useTime reached.unedited_eq

/-- A duration shows the unit that is made its leading one. -/
theorem countsOn_withLeadingUnit (duration : settings.mode = .duration) (unit : TimeUnit) :
    (settings.withLeadingUnit unit).CountsOn := by
  have counts : DateTimeSettings.isDuration { settings with leadingUnit := unit } = true :=
    isDuration_of_mode duration
  refine .inr ?_
  simp only [withLeadingUnit, counts, if_true]
  cases unit with
  | hours => cases settings.hourFormat <;> simp [unitStyle?, HourFormat.style?]
  | minutes => cases settings.minuteFormat <;> simp [unitStyle?, MinuteFormat.style?]
  | seconds => cases settings.secondFormat <;> simp [unitStyle?, SecondFormat.style?]

/-- Nothing but the taking back of a preset loses the unit that a duration counts on in. -/
theorem countsOn_edit (duration : settings.mode = .duration) (countsOn : settings.CountsOn) {edit : DateTimeEdit}
    (lasts : (settings.edit edit).mode = .duration) : (settings.edit edit).CountsOn ∨
      edit = .smart none ∧ settings.smart ≠ none ∧ settings.unitStyle? settings.leadingUnit = none := by
  cases edit with
  | mode mode =>
    cases mode with
    | clock => cases lasts
    | duration => exact .inl countsOn
  | leadingUnit unit => exact .inl (countsOn_withLeadingUnit duration unit)
  | smart preset =>
    cases preset with
    | some preset => exact .inl (.inl (Option.some_ne_none preset))
    | none =>
      by_cases shown : settings.unitStyle? settings.leadingUnit = none
      · exact .inr ⟨rfl, countsOn.resolve_right (not_not_intro shown), shown⟩
      · exact .inl (.inr shown)

/-- However a duration was come by, it counts on in a unit, and so is neither empty nor a clock, just if it has a
preset or its leading unit is not hidden. Making a unit the leading one brings this about, and of further edits
only the taking back of a preset can undo it. -/
theorem Reached.isElapsed_format_iff (reached : Reached settings) (duration : settings.mode = .duration) :
    (settings.format.isElapsed = true ↔
      settings.smart ≠ none ∨ settings.unitStyle? settings.leadingUnit ≠ none) ∧
    (settings.format.isElapsed = true → settings.format.isEmpty = false ∧ settings.code ≠ "" ∧
      ∀ clock : DateTimeSettings, clock.mode = .clock → clock.format ≠ settings.format) ∧
    (∀ unit, (settings.withLeadingUnit unit).format.isElapsed = true) ∧
    ∀ edit, settings.format.isElapsed = true → (settings.edit edit).mode = .duration →
      (settings.edit edit).format.isElapsed = true ∨
        edit = .smart none ∧ settings.smart ≠ none ∧ settings.unitStyle? settings.leadingUnit = none := by
  have elapsed_iff := isElapsed_iff_countsOn duration reached.useTime
  have after_iff : ∀ edit, (settings.edit edit).mode = .duration →
      ((settings.edit edit).format.isElapsed = true ↔ (settings.edit edit).CountsOn) := fun edit lasts =>
    isElapsed_iff_countsOn lasts (reached.edit edit).useTime
  refine ⟨elapsed_iff, fun elapsed => ⟨?_, ?_, fun clock mode same => ?_⟩, fun unit => ?_,
    fun edit elapsed lasts => ?_⟩
  · exact DateTimeFormat.isEmpty_of_isElapsed elapsed
  · exact DateTimeFormat.code_ne_empty_of_isElapsed elapsed
  · rw [← same, isElapsed_of_clock mode] at elapsed
    cases elapsed
  · have lasts : (settings.withLeadingUnit unit).mode = .duration := by
      rw [mode_withLeadingUnit, duration]
    exact (after_iff (.leadingUnit unit) lasts).mpr (countsOn_withLeadingUnit duration unit)
  · exact (countsOn_edit duration (elapsed_iff.mp elapsed) lasts).imp_left (after_iff edit lasts).mpr

/-- A preset that has hidden all units is taken back, but after minutes were made the leading unit. -/
theorem Reached.isElapsed_format_iff_minutes :
    let settings := ((({} : DateTimeSettings).withMode .duration).withSmart (some .timer)).withLeadingUnit .minutes
    let free := settings.withSmart none
    (Reached free ∧ free.mode = .duration) ∧ free.smart = none ∧ free.code = "[m]\"m \"" ∧
    free.format.isElapsed = true ∧ (free.withLeadingUnit .seconds).format.isElapsed = true ∧
    ∀ clock : DateTimeSettings, clock.mode = .clock → clock.format ≠ free.format := by
  intro settings free
  have reached : Reached free :=
    .edit (.smart none) (.edit (.leadingUnit .minutes) (.edit (.smart (some .timer))
      (.edit (.mode .duration) .initial)))
  obtain ⟨elapsed_iff, shown, leading, -⟩ := reached.isElapsed_format_iff rfl
  have elapsed : free.format.isElapsed = true := elapsed_iff.mpr (.inr (by decide))
  exact ⟨⟨reached, rfl⟩, rfl, by decide +kernel, elapsed, leading .seconds, (shown elapsed).2.2⟩

/-- The preset of a duration hides all its units, and they stay hidden when it is taken back. Seconds, which the
initial settings hide, stay so when a clock is told to be led by them. -/
theorem duration_without_leading_unit :
    let free := ((({} : DateTimeSettings).withMode .duration).withSmart (some .timer)).withSmart none
    let late := (({} : DateTimeSettings).withLeadingUnit .seconds).withMode .duration
    (Reached free ∧ free.mode = .duration ∧ free.format.isElapsed = false ∧ free.code = "") ∧
    (Reached late ∧ late.mode = .duration ∧ late.format.isElapsed = false ∧ late.code = "") := by
  intro free late
  have freed : Reached free := .edit (.smart none) (.edit (.smart (some .timer)) (.edit (.mode .duration) .initial))
  have led : Reached late := .edit (.mode .duration) (.edit (.leadingUnit .seconds) .initial)
  exact ⟨⟨freed, rfl, by decide, by decide⟩, ⟨led, rfl, by decide, by decide⟩⟩

end DateTimeSettings

end CellFormat

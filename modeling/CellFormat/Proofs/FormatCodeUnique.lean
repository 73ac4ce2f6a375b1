import CellFormat.DateTime.Preview
import CellFormat.Proofs.PlanTokens

/-!
The code of a date and time format settles its parts, though the month and the minute share a letter: a
date is known by its year, and what follows a date is the time. So settings with one code show the same.
-/

namespace CellFormat

/-- A bracket with the tag of a locale in it, which begins with a dollar sign. -/
def Token.IsLocale : Token → Prop
  | bracket content => content.toList.head? = some '$'
  | literal _ | quoted _ | escaped _ | sectionSep | endOfCode => False

instance : DecidablePred Token.IsLocale
  | .bracket _ => inferInstanceAs (Decidable (_ = _))
  | .literal _ | .quoted _ | .escaped _ | .sectionSep | .endOfCode => .isFalse id

theorem Token.IsSpacing.not_isLocale {token : Token} (spacing : token.IsSpacing) : ¬token.IsLocale := by
  cases token <;> first | exact id | exact spacing.elim

/-- What holds of the tokens of numbers, spacings and marks of the half of the day holds of all of a time. -/
theorem TimePlan.forall_mem_tokens {p : Token → Prop}
    (numbers : ∀ unit : TimeUnit, ∀ token ∈ unit.numberTokens, p token)
    (spacings : ∀ token : Token, token.IsSpacing → p token)
    (halves : ∀ half, ∀ token ∈ (halfParts half).flatMap FormatPart.tokens, p token) (plan : TimePlan) :
    ∀ token ∈ plan.tokens, p token := by
  intro token member
  rw [tokens_eq, List.mem_append] at member
  rcases member with units | half
  · rcases UnitPlan.mem_tokens units with ⟨unitPlan, _, number⟩ | spacing
    · exact numbers unitPlan.unit token number
    · exact spacings token spacing
  · exact halves plan.amPm token half

theorem TimePlan.ne_year_of_mem (plan : TimePlan) : ∀ token ∈ plan.tokens, token ≠ .literal 'y' := by
  refine forall_mem_tokens ?_ (by rintro _ spacing rfl; revert spacing; decide) ?_ plan
  · intro unit
    cases unit <;> decide
  · rintro (_ | half)
    · decide
    · cases half <;> decide

/-- What holds of the letters of calendar parts and of spacings holds of all tokens of a date. -/
theorem DatePlan.forall_mem_tokens {p : Token → Prop} (letters : ∀ part : CalendarPart, p (.literal part.letter))
    (spacings : ∀ token : Token, token.IsSpacing → p token) (plan : DatePlan) :
    ∀ token ∈ plan.tokens, p token := by
  intro token member
  obtain ⟨part, inside, written⟩ := List.mem_flatMap.mp member
  rcases DatePlan.mem_parts inside with between | ⟨calendar, rfl⟩
  · exact spacings token (plan.spacing_separatorParts.isSpacing_of_mem token
      (List.mem_flatMap.mpr ⟨part, between, written⟩))
  · rw [calendar.eq_letter_of_mem token written]
    exact letters calendar

/-- A date is known by its year, which no time has. -/
theorem DatePlan.tokens_append_ne (date : DatePlan) (rest : List Token) (time : TimePlan) :
    date.tokens ++ rest ≠ time.tokens := by
  intro same
  have member : .literal 'y' ∈ time.tokens := same ▸ List.mem_append_left rest date.year_mem_tokens
  exact time.ne_year_of_mem _ member rfl

namespace ManualPlan

/-- The parts of a time that may be missing. -/
def timeParts (time : Option TimePlan) : List FormatPart := (time.getD ⟨[], none⟩).parts

/-- The parts of a time that stands behind a date. -/
def laterParts : Option TimePlan → List FormatPart
  | some time => .separator " " :: time.parts
  | none => []

/-- The parts behind the locale tag. -/
def shownParts (plan : ManualPlan) : List FormatPart :=
  match plan.date with
  | some date => date.parts ++ laterParts plan.time
  | none => timeParts plan.time

theorem parts_eq (plan : ManualPlan) :
    plan.parts = (plan.locale.map FormatPart.locale).toList ++ plan.shownParts := by
  obtain ⟨locale, date, time⟩ := plan
  cases date <;> cases time <;> simp [parts, shownParts, laterParts, timeParts, TimePlan.parts]

/-- What the plans of settings keep to. -/
structure WellFormed (plan : ManualPlan) : Prop where
  locale_head : ∀ content ∈ plan.locale, content.toList.head? = some '$'
  distinct : ∀ time ∈ plan.time, UnitPlan.Distinct time.units

theorem timeParts_eq_of_tokens_eq {time other : Option TimePlan}
    (distinct : ∀ plan ∈ time, UnitPlan.Distinct plan.units)
    (otherDistinct : ∀ plan ∈ other, UnitPlan.Distinct plan.units)
    (same : (timeParts time).flatMap FormatPart.tokens = (timeParts other).flatMap FormatPart.tokens) :
    timeParts time = timeParts other := by
  have distinct_getD : ∀ {time : Option TimePlan}, (∀ plan ∈ time, UnitPlan.Distinct plan.units) →
      UnitPlan.Distinct (time.getD ⟨[], none⟩).units := by
    intro time distinct
    cases time with
    | none => exact .nil
    | some plan => exact distinct plan rfl
  exact TimePlan.parts_eq_of_tokens_eq (distinct_getD distinct) (distinct_getD otherDistinct) same

theorem tokens_laterParts (time : Option TimePlan) : (laterParts time).flatMap FormatPart.tokens =
    if time.isSome then .literal ' ' :: (timeParts time).flatMap FormatPart.tokens else [] := by
  cases time <;> simp [laterParts, timeParts, FormatPart.tokens, literals]

theorem isSpacing_laterParts (time : Option TimePlan) :
    ∀ token ∈ ((laterParts time).flatMap FormatPart.tokens).head?, token.IsSpacing := by
  intro token opens
  rw [tokens_laterParts] at opens
  cases time with
  | none => simp at opens
  | some time =>
    cases opens
    exact .inr rfl

theorem laterParts_eq_of_tokens_eq {time other : Option TimePlan}
    (distinct : ∀ plan ∈ time, UnitPlan.Distinct plan.units)
    (otherDistinct : ∀ plan ∈ other, UnitPlan.Distinct plan.units)
    (same : (laterParts time).flatMap FormatPart.tokens = (laterParts other).flatMap FormatPart.tokens) :
    laterParts time = laterParts other := by
  rw [tokens_laterParts, tokens_laterParts] at same
  cases time with
  | none =>
    cases other with
    | none => rfl
    | some other => cases same
  | some time =>
    cases other with
    | none => cases same
    | some other =>
      have times : timeParts (some time) = timeParts (some other) :=
        timeParts_eq_of_tokens_eq distinct otherDistinct (List.cons.inj same).2
      exact congrArg (FormatPart.separator " " :: ·) times

/-- What holds of the tokens of dates and times holds of all that stands behind the locale tag. -/
theorem forall_mem_shownTokens {p : Token → Prop} (letters : ∀ part : CalendarPart, p (.literal part.letter))
    (numbers : ∀ unit : TimeUnit, ∀ token ∈ unit.numberTokens, p token)
    (spacings : ∀ token : Token, token.IsSpacing → p token)
    (halves : ∀ half, ∀ token ∈ (TimePlan.halfParts half).flatMap FormatPart.tokens, p token)
    (plan : ManualPlan) : ∀ token ∈ plan.shownParts.flatMap FormatPart.tokens, p token := by
  have time : ∀ time : Option TimePlan, ∀ token ∈ (timeParts time).flatMap FormatPart.tokens, p token :=
    fun _ => TimePlan.forall_mem_tokens numbers spacings halves _
  intro token member
  unfold shownParts at member
  split at member
  · rw [List.flatMap_append, List.mem_append, tokens_laterParts] at member
    rcases member with date | later
    · exact DatePlan.forall_mem_tokens letters spacings _ token date
    · split at later
      · rcases List.mem_cons.mp later with rfl | inside
        · exact spacings _ (.inr rfl)
        · exact time _ token inside
      · simp at later
  · exact time _ token member

theorem not_isLocale_of_mem_shownParts (plan : ManualPlan) :
    ∀ token ∈ plan.shownParts.flatMap FormatPart.tokens, ¬token.IsLocale := by
  refine forall_mem_shownTokens (fun _ => id) ?_ (fun _ => Token.IsSpacing.not_isLocale) ?_ plan
  · intro unit
    cases unit <;> decide
  · rintro (_ | half)
    · decide
    · cases half <;> decide

theorem shownParts_eq_of_tokens_eq {plan other : ManualPlan} (wellFormed : plan.WellFormed)
    (otherWellFormed : other.WellFormed)
    (same : plan.shownParts.flatMap FormatPart.tokens = other.shownParts.flatMap FormatPart.tokens) :
    plan.shownParts = other.shownParts := by
  unfold shownParts at same ⊢
  split at same <;> split at same
  · rw [List.flatMap_append, List.flatMap_append] at same
    obtain ⟨dates, times⟩ := DatePlan.parts_append_inj (isSpacing_laterParts _) (isSpacing_laterParts _) same
    rw [dates, laterParts_eq_of_tokens_eq wellFormed.distinct otherWellFormed.distinct times]
  · rw [List.flatMap_append] at same
    exact absurd same (DatePlan.tokens_append_ne _ _ _)
  · rw [List.flatMap_append] at same
    exact absurd same.symm (DatePlan.tokens_append_ne _ _ _)
  · exact timeParts_eq_of_tokens_eq wellFormed.distinct otherWellFormed.distinct same

theorem tokens_localeParts (locale : Option String) :
    (locale.map FormatPart.locale).toList.flatMap FormatPart.tokens = locale.toList.map Token.bracket := by
  cases locale <;> rfl

theorem parts_eq_of_tokens_eq {plan other : ManualPlan} (wellFormed : plan.WellFormed)
    (otherWellFormed : other.WellFormed)
    (same : plan.parts.flatMap FormatPart.tokens = other.parts.flatMap FormatPart.tokens) :
    plan.parts = other.parts := by
  have isLocale : ∀ {plan : ManualPlan}, plan.WellFormed →
      ∀ token ∈ plan.locale.toList.map Token.bracket, token.IsLocale := by
    intro plan wellFormed token member
    obtain ⟨content, named, rfl⟩ := List.mem_map.mp member
    exact wellFormed.locale_head content (Option.mem_toList.mp named)
  rw [parts_eq, parts_eq, List.flatMap_append, List.flatMap_append, tokens_localeParts,
    tokens_localeParts] at same
  obtain ⟨tag, shown⟩ := run_append_inj (isLocale wellFormed) (isLocale otherWellFormed)
    (fun token opens => plan.not_isLocale_of_mem_shownParts token (List.mem_of_mem_head? opens))
    (fun token opens => other.not_isLocale_of_mem_shownParts token (List.mem_of_mem_head? opens)) same
  have locale : plan.locale = other.locale := by
    revert tag
    cases plan.locale <;> cases other.locale <;> simp
  rw [parts_eq, parts_eq, locale, shownParts_eq_of_tokens_eq wellFormed otherWellFormed shown]

end ManualPlan

theorem FormatSection.tokens_eq_of_codes_eq {blocks others : List FormatSection}
    (plain : ∀ block ∈ blocks, ∀ part ∈ block.parts, part.Plain)
    (otherPlain : ∀ block ∈ others, ∀ part ∈ block.parts, part.Plain)
    (same : blocks.map code = others.map code) : blocks.map tokens = others.map tokens := by
  induction blocks generalizing others with
  | nil => rw [List.map_eq_nil_iff.mp same.symm]
  | cons block blocks ih =>
    cases others with
    | nil => cases same
    | cons other others =>
      obtain ⟨first, later⟩ := List.cons.inj same
      have scans := scans_code (plain block List.mem_cons_self)
      rw [first] at scans
      rw [List.map_cons, List.map_cons, scans.unique (scans_code (otherPlain other List.mem_cons_self)),
        ih (fun block member => plain block (List.mem_cons_of_mem _ member))
          (fun block member => otherPlain block (List.mem_cons_of_mem _ member)) later]

theorem DateTimeFormat.tokens_eq_of_code_eq {format other : DateTimeFormat} (nonempty : format.sections ≠ [])
    (otherNonempty : other.sections ≠ []) (plain : format.Plain) (otherPlain : other.Plain)
    (same : format.code = other.code) :
    format.sections.map FormatSection.tokens = other.sections.map FormatSection.tokens := by
  have sections := splitSections_code nonempty plain
  rw [same, splitSections_code otherNonempty otherPlain] at sections
  exact FormatSection.tokens_eq_of_codes_eq (fun _ => plain.block) (fun _ => otherPlain.block)
    (Except.ok.inj sections).symm

theorem UnitPlan.distinct_filterMap (settings : DateTimeSettings) :
    UnitPlan.Distinct (TimeUnit.all.filterMap settings.unitPlan?) := by
  have ordered : TimeUnit.all.Pairwise (· ≠ ·) := by decide
  have unit_eq : ∀ unit, ∀ plan ∈ settings.unitPlan? unit, plan.unit = unit := by
    intro unit plan planned
    unfold DateTimeSettings.unitPlan? at planned
    split at planned
    · obtain ⟨style, _, rfl⟩ := Option.map_eq_some_iff.mp planned
      rfl
    · cases planned
  refine List.Pairwise.filterMap _ ?_ ordered
  intro unit next different plan planned nextPlan nextPlanned
  rw [unit_eq unit plan planned, unit_eq next nextPlan nextPlanned]
  exact different

theorem DateTimePlan.manual_tokens (plan : ManualPlan) :
    (DateTimePlan.manual plan).format.sections.map FormatSection.tokens =
      [plan.parts.flatMap FormatPart.tokens] := by
  simp [DateTimePlan.format, FormatSection.tokens, colorTokens]

/-- The presets of two sections differ in the second one. -/
theorem SmartPreset.autoScale_tokens_ne_timer : SmartPreset.autoScale.format.sections.map FormatSection.tokens ≠
    SmartPreset.timer.format.sections.map FormatSection.tokens := by
  intro same
  have last := congrArg List.getLast? same
  simp only [format, List.map_cons, List.map_nil, List.getLast?_cons_cons, List.getLast?_singleton] at last
  revert last
  decide

namespace DateTimeSettings

theorem wellFormed_manualPlan (settings : DateTimeSettings) : settings.manualPlan.WellFormed where
  locale_head _ tagged := localeTag?_head tagged
  distinct time planned := by
    change time ∈ settings.timePlan? at planned
    unfold timePlan? at planned
    split at planned
    · have distinct := UnitPlan.distinct_filterMap settings
      split at planned
      · cases planned
      · cases planned
        exact distinct
    · cases planned

/-- The text preset has the format of a plan with suffixes behind its units. -/
theorem compositeText_format : ∃ plan : ManualPlan, plan.WellFormed ∧
    SmartPreset.compositeText.format = (DateTimePlan.manual plan).format := by
  refine ⟨⟨none, none, some ⟨[⟨.hours, .plain, true, "h "⟩, ⟨.minutes, .padded, false, "m "⟩,
    ⟨.seconds, .padded, false, "s"⟩], none⟩⟩, ⟨by simp, ?_⟩, by decide⟩
  intro time shown
  cases shown
  unfold UnitPlan.Distinct
  decide

theorem format_cases (settings : DateTimeSettings) :
    settings.format = SmartPreset.autoScale.format ∨ settings.format = SmartPreset.timer.format ∨
    ∃ plan : ManualPlan, plan.WellFormed ∧ settings.format = (DateTimePlan.manual plan).format := by
  unfold format plan
  split
  · next preset _ _ =>
    cases preset with
    | autoScale => exact .inl rfl
    | compositeText => exact .inr (.inr compositeText_format)
    | timer => exact .inr (.inl rfl)
  · exact .inr (.inr ⟨settings.manualPlan, settings.wellFormed_manualPlan, rfl⟩)

variable {settings other : DateTimeSettings}

theorem format_eq_of_tokens_eq
    (same : settings.format.sections.map FormatSection.tokens =
      other.format.sections.map FormatSection.tokens) : settings.format = other.format := by
  -- Two presets have two sections, every other format has one.
  have counts := congrArg List.length same
  rcases settings.format_cases with scaled | timed | ⟨plan, wellFormed, manual⟩ <;>
    rcases other.format_cases with otherScaled | otherTimed | ⟨otherPlan, otherWellFormed, otherManual⟩
  · rw [scaled, otherScaled]
  · rw [scaled, otherTimed] at same
    exact absurd same SmartPreset.autoScale_tokens_ne_timer
  · rw [scaled, otherManual] at counts
    cases counts
  · rw [timed, otherScaled] at same
    exact absurd same.symm SmartPreset.autoScale_tokens_ne_timer
  · rw [timed, otherTimed]
  · rw [timed, otherManual] at counts
    cases counts
  · rw [manual, otherScaled] at counts
    cases counts
  · rw [manual, otherTimed] at counts
    cases counts
  · rw [manual, otherManual, DateTimePlan.manual_tokens, DateTimePlan.manual_tokens] at same
    have parts := ManualPlan.parts_eq_of_tokens_eq wellFormed otherWellFormed (List.cons.inj same).1
    rw [manual, otherManual, DateTimePlan.format, DateTimePlan.format, parts]

/-- The code of settings determines their format and so, in one mode, what they show. -/
theorem format_eq_of_code_eq (mode : settings.mode = other.mode)
    (inside : ∀ tag, localeTag? settings.localeCode = some tag → ']' ∉ tag.toList)
    (otherInside : ∀ tag, localeTag? other.localeCode = some tag → ']' ∉ tag.toList)
    (same : settings.code = other.code) : settings.format = other.format ∧
    ∀ (locale : Locale) (sample : Sample), settings.preview locale sample = other.preview locale sample := by
  have formats := format_eq_of_tokens_eq (DateTimeFormat.tokens_eq_of_code_eq settings.sections_ne_nil
    other.sections_ne_nil (plain_format inside) (plain_format otherInside) same)
  exact ⟨formats, fun locale sample => by rw [preview, preview, formats, mode]⟩

/-- The settings name their locale and their separator in different ways; month and minute have one code. -/
theorem format_eq_of_code_eq_month_minute :
    let settings : DateTimeSettings :=
      { localeCode := " fr ", dateSeparator := .space, monthFormat := .number, minuteFormat := .plain }
    let other : DateTimeSettings :=
      { settings with localeCode := "[$-fr]", dateSeparator := .custom, customDateSeparator := " " }
    settings ≠ other ∧ settings.mode = other.mode ∧
    (∀ tag, localeTag? settings.localeCode = some tag → ']' ∉ tag.toList) ∧
    (∀ tag, localeTag? other.localeCode = some tag → ']' ∉ tag.toList) ∧
    settings.code = "[$-fr]dd m yyyy hh:m" ∧ settings.code = other.code ∧ settings.format = other.format ∧
    ∀ (locale : Locale) (sample : Sample), settings.preview locale sample = other.preview locale sample := by
  intro settings other
  have tag_eq : localeTag? settings.localeCode = some "$-fr" ∧ localeTag? other.localeCode = some "$-fr" := by
    decide
  have inside : ∀ tag, localeTag? settings.localeCode = some tag → ']' ∉ tag.toList := by
    rintro tag found
    rw [tag_eq.1] at found
    cases found
    decide
  have otherInside : ∀ tag, localeTag? other.localeCode = some tag → ']' ∉ tag.toList := by
    rintro tag found
    rw [tag_eq.2] at found
    cases found
    decide
  have shown : settings.code = "[$-fr]dd m yyyy hh:m" := by decide +kernel
  have same : settings.code = other.code := by decide +kernel
  exact ⟨by decide, rfl, inside, otherInside, shown, same,
    format_eq_of_code_eq rfl inside otherInside same⟩

end DateTimeSettings

end CellFormat

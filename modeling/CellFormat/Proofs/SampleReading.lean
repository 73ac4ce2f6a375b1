import CellFormat.DateTime.Preview
import CellFormat.Proofs.Rounding

/-!
What a preview depends on. A clock reads the date and the time of day, a duration its seconds and, in calendar
parts only, the date. Conditions, colors and locale tags show nothing and change nothing that is shown.
-/

namespace CellFormat

namespace Binary64

theorem abs_eq_ofRank (x : Binary64) : x.abs = (x.place?.map fun place => ofRank false place.natAbs).getD nan := by
  cases x with
  | nan => rfl
  | infinite negative =>
    have far : (if negative then -(finiteCount : Int) else finiteCount).natAbs = finiteCount := by split <;> omega
    simp only [place?, Option.map_some, Option.getD_some, far, ofRank_of_le le_rfl]
    rfl
  | finite negative rank =>
    have near : (if negative then -(rank.val : Int) else rank.val).natAbs = rank := by split <;> omega
    simp only [place?, Option.map_some, Option.getD_some, near, ofRank_val]
    rfl

variable {x y : Binary64}

/-- Numbers at one place differ in the sign of a zero at most. -/
theorem abs_eq_of_place? (same : x.place? = y.place?) : x.abs = y.abs := by
  rw [abs_eq_ofRank, same, ← abs_eq_ofRank]

theorem isFinite_eq_of_place? (same : x.place? = y.place?) : x.isFinite = y.isFinite := by
  rw [← isFinite_abs x, abs_eq_of_place? same, isFinite_abs]

theorem lt_eq_of_place? (same : x.place? = y.place?) (bound : Binary64) : x.lt bound = y.lt bound := by
  rw [lt, same, ← lt]

end Binary64

namespace FormatPart

def isLocale : FormatPart → Bool
  | locale _ => true
  | _ => false

variable {part : FormatPart}

theorem preview_of_isLocale (tag : part.isLocale = true) (locale : Locale) (date : Date) (fields : TimeFields)
    (hasAmPm : Bool) : part.preview locale date fields hasAmPm = "" := by
  cases part <;> first | rfl | cases tag

/-- Only calendar parts read the date. -/
theorem preview_of_not_isCalendar (undated : part.isCalendar = false) (locale : Locale) (date other : Date)
    (fields : TimeFields) (hasAmPm : Bool) :
    part.preview locale date fields hasAmPm = part.preview locale other fields hasAmPm := by
  cases part <;> first | rfl | cases undated

end FormatPart

namespace FormatSection

/-- The section without its condition, its color and its locale tags. -/
def bare (block : FormatSection) : FormatSection := { parts := block.parts.filter fun part => !part.isLocale }

variable (block : FormatSection)

theorem findSome?_bare {α : Type} {query : FormatPart → Option α}
    (silent : ∀ part : FormatPart, part.isLocale = true → query part = none) :
    block.bare.parts.findSome? query = block.parts.findSome? query := by
  have skipped : (fun part : FormatPart => if (!part.isLocale) = true then query part else none) = query := by
    funext part
    cases tag : part.isLocale with
    | true => exact (silent part tag).symm
    | false => rfl
  rw [bare, ← List.head?_filterMap, ← List.head?_filterMap, List.filterMap_filter, skipped]

theorem elapsed?_bare : block.bare.elapsed? = block.elapsed? := by
  refine block.findSome?_bare fun part tag => ?_
  cases part <;> first | rfl | cases tag

theorem subSecondPlaces_bare : block.bare.subSecondPlaces = block.subSecondPlaces := by
  have silent : ∀ part : FormatPart, part.isLocale = true → part.subSecond? = none := by
    intro part tag
    cases part <;> first | rfl | cases tag
  rw [subSecondPlaces, block.findSome?_bare silent]
  rfl

theorem hasAmPm_bare : block.bare.hasAmPm = block.hasAmPm := by
  have marks : (fun part : FormatPart => !part.isLocale && part.isAmPm) = FormatPart.isAmPm := by
    funext part
    cases part <;> rfl
  rw [hasAmPm, bare, List.any_filter, marks]
  rfl

theorem timeFields_bare (mode : DateTimeMode) (seconds : Binary64) :
    block.bare.timeFields mode seconds = block.timeFields mode seconds := by
  have digits : block.bare.precision = block.precision := by rw [precision, subSecondPlaces_bare, precision]
  have scale : block.bare.ticksPerSecond = block.ticksPerSecond := by rw [ticksPerSecond, digits, ticksPerSecond]
  have counted : block.bare.ticks seconds = block.ticks seconds := by rw [ticks, digits, scale, ticks]
  unfold timeFields
  rw [counted, scale, digits, elapsed?_bare, subSecondPlaces_bare]

theorem preview_bare (locale : Locale) (date : Date) (fields : TimeFields) :
    block.bare.preview locale date fields = block.preview locale date fields := by
  have shown : ∀ (hasAmPm : Bool) (parts : List FormatPart),
      String.join ((parts.filter fun part => !part.isLocale).map (·.preview locale date fields hasAmPm)) =
        String.join (parts.map (·.preview locale date fields hasAmPm)) := by
    intro hasAmPm parts
    induction parts with
    | nil => rfl
    | cons part later ih =>
      cases tag : part.isLocale with
      | true =>
        rw [List.filter_cons_of_neg (by simp [tag]), ih, List.map_cons, String.join_cons,
          FormatPart.preview_of_isLocale tag, String.empty_append]
      | false =>
        rw [List.filter_cons_of_pos (by simp [tag]), List.map_cons, String.join_cons, ih, List.map_cons,
          String.join_cons]
  rw [preview, hasAmPm_bare, bare, shown]
  rfl

/-- What a part of the section shows of a sample. -/
def partText (mode : DateTimeMode) (locale : Locale) (sample : Sample) (part : FormatPart) : String :=
  part.preview locale sample.date (block.timeFields mode (sample.seconds mode)) block.hasAmPm

end FormatSection

namespace DateTimeFormat

/-- The format without its conditions, its colors and its locale tags. -/
def bare (format : DateTimeFormat) : DateTimeFormat := ⟨format.sections.map FormatSection.bare⟩

variable (format : DateTimeFormat)

theorem section?_bare (mode : DateTimeMode) (sample : Sample) :
    format.bare.section? mode sample = (format.section? mode sample).map FormatSection.bare := by
  obtain ⟨sections⟩ := format
  match sections with
  | [] | [_] => rfl
  | underHour :: overHour :: _ =>
    simp only [bare, section?, List.map_cons]
    split <;> rfl

/-- A format shows what it shows without conditions, colors and locale tags. -/
theorem preview_bare (mode : DateTimeMode) (locale : Locale) (sample : Sample) :
    format.bare.preview mode locale sample = format.preview mode locale sample := by
  rw [preview, preview, section?_bare]
  cases format.section? mode sample with
  | none => rfl
  | some block => simp only [Option.map_some, block.timeFields_bare, block.preview_bare]

variable {format} {mode : DateTimeMode} {first second : Sample}

theorem mem_of_section? {block : FormatSection} (shown : format.section? mode first = some block) :
    block ∈ format.sections := by
  unfold section? at shown
  split at shown
  · cases shown
  · next single =>
    cases shown
    rw [single]
    exact List.mem_singleton_self _
  · next two =>
    rw [two]
    split at shown <;> cases shown <;> simp

theorem exists_section? (format : DateTimeFormat) (nonempty : format.sections ≠ []) (mode : DateTimeMode)
    (sample : Sample) : ∃ block ∈ format.sections, format.section? mode sample = some block := by
  cases shown : format.section? mode sample with
  | none =>
    unfold section? at shown
    split at shown
    · next none => exact absurd none nonempty
    · cases shown
    · split at shown <;> cases shown
  | some block => exact ⟨block, mem_of_section? shown, rfl⟩

/-- A sign and what the parts of the section show. -/
theorem preview_of_section? {block : FormatSection} {sample : Sample}
    (shown : format.section? mode sample = some block) (locale : Locale) : format.preview mode locale sample =
      (if sample.isNegative mode then "-" else "") ++
        String.join (block.parts.map (block.partText mode locale sample)) := by
  rw [preview, shown]
  cases negative : sample.isNegative mode with
  | true => rfl
  | false =>
    simp only [Bool.false_eq_true, if_false, String.empty_append]
    rfl

/-- All that a preview reads of a sample. -/
theorem preview_congr (block : format.section? mode first = format.section? mode second)
    (seconds : first.seconds mode = second.seconds mode) (sign : first.isNegative mode = second.isNegative mode)
    (date : first.date = second.date ∨ format.hasCalendarParts = false) (locale : Locale) :
    format.preview mode locale first = format.preview mode locale second := by
  cases shown : format.section? mode second with
  | none => rw [preview, preview, block, shown]
  | some chosen =>
    have parts : ∀ part ∈ chosen.parts,
        chosen.partText mode locale first part = chosen.partText mode locale second part := by
      intro part member
      rw [FormatSection.partText, FormatSection.partText, seconds]
      rcases date with same | undated
      · rw [same]
      · rw [hasCalendarParts, List.any_eq_false] at undated
        have inside := List.mem_flatMap.mpr ⟨chosen, mem_of_section? shown, member⟩
        exact FormatPart.preview_of_not_isCalendar (Bool.eq_false_iff.mpr (undated part inside)) ..
    rw [preview_of_section? (block.trans shown), preview_of_section? shown, sign, List.map_congr_left parts]

theorem section?_clock (sample other : Sample) : format.section? .clock sample = format.section? .clock other := by
  simp only [section?, reduceCtorEq, false_and, if_false]

theorem section?_duration (same : first.duration.place? = second.duration.place?) :
    format.section? .duration first = format.section? .duration second := by
  simp only [section?, Binary64.abs_eq_of_place? same]

/-- A clock shows the date and the time of day of a sample and nothing of its duration; a duration without calendar
parts shows nothing of the date and the time, and tells no zero from the other. In either mode conditions, colors
and locale tags make no difference. -/
theorem preview_reads_own_sample (format : DateTimeFormat) (locale : Locale) :
    (∀ first second : Sample, first.date = second.date → first.time = second.time →
      format.preview .clock locale first = format.preview .clock locale second) ∧
    (format.hasCalendarParts = false →
      ∀ first second : Sample, first.duration.place? = second.duration.place? →
        format.preview .duration locale first = format.preview .duration locale second) ∧
    ∀ other : DateTimeFormat, other.bare = format.bare → ∀ (mode : DateTimeMode) (sample : Sample),
      other.preview mode locale sample = format.preview mode locale sample := by
  refine ⟨fun first second date time => ?_, fun undated first second same => ?_, fun other bare mode sample => ?_⟩
  · have seconds : first.seconds .clock = second.seconds .clock := congrArg ClockTime.seconds time
    exact preview_congr (section?_clock first second) seconds rfl (.inl date) locale
  · have magnitude := Binary64.abs_eq_of_place? same
    have finite := Binary64.isFinite_eq_of_place? same
    have seconds : first.seconds .duration = second.seconds .duration := by
      rw [Sample.seconds, Sample.seconds, magnitude, finite]
    have sign : first.isNegative .duration = second.isNegative .duration := by
      rw [Sample.isNegative, Sample.isNegative, finite, Binary64.lt_eq_of_place? same]
    exact preview_congr (section?_duration same) seconds sign (.inr undated) locale
  · rw [← preview_bare, bare, preview_bare]

/-- Two moments with their durations out of range, two durations of zero at different moments, and a format in two
sections with all its tags taken off. -/
theorem preview_reads_own_sample_zeros :
    let under : FormatSection := {
      condition := some ⟨.less, .ofDecimal false ⟨416667, -7⟩⟩
      color := some .blue
      parts := [.locale "$-en-US", .elapsed .minutes, .literal "m", .subSecond 1] }
    let above : FormatSection := { parts := [.elapsed .hours, .separator ":", .clock .minute2] }
    let format : DateTimeFormat := ⟨[under, above]⟩
    let tagless : DateTimeFormat := ⟨[
      { parts := [.elapsed .minutes, .literal "m", .subSecond 1] }, { above with color := some .red }]⟩
    let later : Sample := {
      date := ⟨-1, 2, 28, by decide, by decide, by decide⟩
      time := ⟨23, 59, 59, 1999999999, by decide, by decide, by decide, by decide⟩
      duration := .ofRank true 0 }
    format.hasCalendarParts = false ∧ later.duration.place? = Binary64.zero.place? ∧ tagless.bare = format.bare ∧
    format.preview .clock {} { later with duration := .nan } =
      format.preview .clock {} { later with duration := .infinite true } ∧
    format.preview .duration {} later = format.preview .duration {} { duration := .zero } ∧
    tagless.preview .duration {} later = format.preview .duration {} later := by
  intro under above format tagless later
  have undated : format.hasCalendarParts = false := by decide
  have zeros : later.duration.place? = Binary64.zero.place? := by decide
  have bare : tagless.bare = format.bare := by decide
  obtain ⟨clock, duration, tags⟩ := format.preview_reads_own_sample {}
  exact ⟨undated, zeros, bare, clock { later with duration := .nan } { later with duration := .infinite true } rfl rfl,
    duration undated later { duration := .zero } zeros, tags tagless bare .duration later⟩

end DateTimeFormat

end CellFormat

import CellFormat.Proofs.NumberReading
import CellFormat.Proofs.SampleReading

/-!
The decimals of the second. Each part for them shows as many digits as it has places, whatever the places of the
others: those that a section counts are settled by its first such part, and where a part has more places than are
counted, or others than the first, it is filled up with zeros.
-/

namespace CellFormat

theorem counted_pos {places : UInt8} (shown : places ≠ 0) : 0 < min places.toNat maxPrecision := by
  have some : places.toNat ≠ 0 := fun none => shown (UInt8.toNat_inj.mp none)
  exact Nat.lt_min.mpr ⟨Nat.pos_of_ne_zero some, by decide⟩

namespace TimeFields

variable {fields : TimeFields} {places : UInt8}

theorem subSecondText_first (shown : fields.places ≠ 0) (locale : Locale) :
    fields.subSecondText locale fields.places = locale.decimalMark ::
      (paddedDigits fields.precision fields.fraction ++
        List.replicate (fields.places.toNat - fields.precision) '0') := by
  rw [subSecondText, if_neg shown, if_pos rfl]
  rfl

theorem subSecondText_other (shown : places ≠ 0) (other : places ≠ fields.places) (locale : Locale) :
    fields.subSecondText locale places = locale.decimalMark :: List.replicate places.toNat '0' := by
  rw [subSecondText, if_neg shown, if_neg other]

/-- The digits behind the mark fill the places of the part. -/
theorem exists_digits (counted : fields.precision = min fields.places.toNat maxPrecision)
    (fits : fields.fraction < 10 ^ fields.precision) (shown : places ≠ 0) (locale : Locale) :
    ∃ digits, fields.subSecondText locale places = locale.decimalMark :: digits ∧
      digits.length = places.toNat ∧ ∀ digit ∈ digits, digit.isDigit = true := by
  have zeros : ∀ count, ∀ digit ∈ List.replicate count '0', digit.isDigit = true := by
    intro count digit member
    rw [List.eq_of_mem_replicate member]
    rfl
  by_cases first : places = fields.places
  · subst first
    have within : fields.precision ≤ fields.places.toNat := counted ▸ Nat.min_le_left _ _
    have positive : 0 < fields.precision := counted ▸ counted_pos shown
    refine ⟨_, subSecondText_first shown locale, ?_, fun digit member => ?_⟩
    · rw [List.length_append, length_paddedDigits positive fits, List.length_replicate]
      omega
    · exact (List.mem_append.mp member).elim isDigit_of_mem_paddedDigits (zeros _ digit)
  · exact ⟨_, subSecondText_other shown first locale, List.length_replicate, zeros _⟩

end TimeFields

namespace FormatSection

variable {block : FormatSection} {places : UInt8}

theorem subSecondPlaces_of_first (first : block.parts.findSome? FormatPart.subSecond? = some places) :
    block.subSecondPlaces = places := by
  rw [subSecondPlaces, first]
  rfl

/-- A section that counts decimals rounds to the last of them. -/
theorem ticks_of_first (first : block.parts.findSome? FormatPart.subSecond? = some places) (shown : places ≠ 0)
    (seconds : Binary64) : block.ticks seconds =
      (seconds * .ofNat (10 ^ min places.toNat maxPrecision)).round.toWord := by
  have counted : block.precision = min places.toNat maxPrecision := by
    rw [precision, subSecondPlaces_of_first first]
  rw [ticks, counted, if_pos (counted_pos shown), ticksPerSecond, counted]
  rfl

/-- A part for the decimals shows nothing if it has no places, and else the mark and one digit for each place. The
places that are filled up are never fewer than none, and in a part with the places of the first one the digits are
what the rounded count leaves over a whole second, and zeros behind them. -/
theorem subSecond_digits (block : FormatSection) (mode : DateTimeMode) (locale : Locale) (sample : Sample) :
    let fields := block.timeFields mode (sample.seconds mode)
    let text := block.partText mode locale sample
    (∀ format : DateTimeFormat, format.section? mode sample = some block →
      format.preview mode locale sample =
        (if sample.isNegative mode then "-" else "") ++ String.join (block.parts.map text)) ∧
    ∀ places : UInt8,
      (places = fields.places → fields.precision ≤ places.toNat) ∧
      (places = 0 → text (.subSecond places) = "") ∧
      (places ≠ 0 → ∃ digits, text (.subSecond places) = String.ofList (locale.decimalMark :: digits) ∧
        digits.length = places.toNat ∧ (∀ digit ∈ digits, digit.isDigit = true) ∧
        (block.parts.findSome? FormatPart.subSecond? = some places →
          let counted := min places.toNat 9
          let ticks := (sample.seconds mode * .ofNat (10 ^ counted)).round.toWord
          digits = paddedDigits counted (ticks % 10 ^ counted) ++ List.replicate (places.toNat - counted) '0')) := by
  intro fields text
  have counted : fields.precision = min fields.places.toNat maxPrecision := rfl
  have fits : fields.fraction < 10 ^ fields.precision := Nat.mod_lt _ (Nat.pow_pos (by decide))
  refine ⟨fun format shown => DateTimeFormat.preview_of_section? shown locale, fun places => ⟨?_, ?_, ?_⟩⟩
  · rintro rfl
    exact Nat.min_le_left _ _
  · rintro rfl
    rfl
  · intro shown
    obtain ⟨digits, spelled, width, decimal⟩ := TimeFields.exists_digits counted fits shown locale
    refine ⟨digits, congrArg String.ofList spelled, width, decimal, fun first => ?_⟩
    obtain rfl : fields.places = places := subSecondPlaces_of_first first
    have fraction : fields.fraction = block.ticks (sample.seconds mode) % 10 ^ fields.precision := rfl
    rw [TimeFields.subSecondText_first shown, fraction, ticks_of_first first shown, counted] at spelled
    exact (List.cons.inj spelled).2.symm

/-- More places than are counted, then none, then fewer, then the first ones again. -/
theorem subSecond_digits_mixed :
    let block : FormatSection := {
      parts := [.elapsed .seconds2, .subSecond 12, .subSecond 0, .subSecond 3, .subSecond 12] }
    let sample : Sample := { duration := .ofDecimal true ⟨7525, -2⟩ }
    let format : DateTimeFormat := ⟨[block]⟩
    let text := block.partText .duration {} sample
    format.section? .duration sample = some block ∧
    block.parts.findSome? FormatPart.subSecond? = some 12 ∧ text (.subSecond 12) = ".250000000000" ∧
    text (.subSecond 0) = "" ∧
    (∃ digits, text (.subSecond 3) = String.ofList ('.' :: digits) ∧ digits.length = 3) ∧
    format.preview .duration {} sample = "-75.250000000000.000.250000000000" := by
  intro block sample format text
  obtain ⟨whole, each⟩ := block.subSecond_digits .duration {} sample
  obtain ⟨_, long, _, _, counted⟩ := (each 12).2.2 (by decide)
  obtain ⟨three, short, width, _⟩ := (each 3).2.2 (by decide)
  refine ⟨rfl, rfl, ?_, (each 0).2.1 rfl, ⟨three, short, width⟩, (whole format rfl).trans (by decide +kernel)⟩
  rw [counted rfl] at long
  exact long.trans (by decide +kernel)

end FormatSection

end CellFormat

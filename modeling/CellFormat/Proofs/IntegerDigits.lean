import CellFormat.Proofs.FractionWidth

/-!
The integer part of a number is shown with digits just if the ticks are in the range of the numbers. Past it the whole
part is infinite, and its name is shown.
-/

namespace CellFormat

/-- The texts of what is no finite number. -/
def nonFiniteNames : List String := ["inf", "NaN", "Infinity"]

section IntegerText

variable {mark : Option Char} {width : Nat} {digits : List Char} (decimal : ∀ c ∈ digits, c.isDigit = true)

include decimal

theorem isDigit_of_mem_integerText {c : Char} (member : c ∈ integerText mark width digits) :
    c.isDigit = true ∨ mark = some c := by
  rcases mem_integerText member with rfl | digit | same
  · exact .inl rfl
  · exact .inl (decimal c digit)
  · exact .inr same

theorem le_countP_integerText : width ≤ (integerText mark width digits).countP Char.isDigit := by
  have padded : ∀ c ∈ digits.leftpad width '0', c.isDigit = true := by
    intro c member
    rw [List.leftpad, List.mem_append] at member
    rcases member with zero | digit
    · rw [List.eq_of_mem_replicate zero]
      rfl
    · exact decimal c digit
  have length : width ≤ (digits.leftpad width '0').length := by
    rw [List.length_leftpad]
    exact Nat.le_max_left _ _
  rw [← List.countP_eq_length.mpr padded] at length
  exact length.trans (sublist_integerText mark width).countP_le

end IntegerText

theorem exists_letters {name : String} (member : name ∈ nonFiniteNames) : ∃ first second : Char,
    first ∈ name.toList ∧ second ∈ name.toList ∧ first.isDigit = false ∧ second.isDigit = false ∧ first ≠ second := by
  simp only [nonFiniteNames, List.mem_cons, List.not_mem_nil, or_false] at member
  rcases member with rfl | rfl | rfl
  · exact ⟨'i', 'n', by decide⟩
  · exact ⟨'N', 'a', by decide⟩
  · exact ⟨'I', 'n', by decide⟩

/-- Among digits and one other character no name is found: each has two characters that are not digits. -/
theorem not_infix_of_digits {text : List Char} {mark : Char} (plain : ∀ c ∈ text, c.isDigit = true ∨ c = mark)
    {name : String} (member : name ∈ nonFiniteNames) : ¬List.IsInfix name.toList text := by
  intro inside
  obtain ⟨first, second, atFirst, atSecond, noDigit, noOther, different⟩ := exists_letters member
  have isMark := (plain first (inside.subset atFirst)).resolve_left (by simp [noDigit])
  have otherIsMark := (plain second (inside.subset atSecond)).resolve_left (by simp [noOther])
  exact different (isMark.trans otherIsMark.symm)

namespace Binary64

theorem exists_round (rank : Fin finiteCount) : ∃ place, (finite false rank).round = finite false place := by
  rcases lt_or_ge (finite false rank).magnitude (2 ^ 52) with small | large
  · obtain ⟨ticks, ⟨place, found, _⟩, _⟩ := exists_isNear_round small
    exact ⟨place, found⟩
  · obtain ⟨bits, steps, near, _⟩ := exists_steps large
    exact ⟨rank, near.round_eq⟩

/-- Ticks in the range of the numbers have a finite whole part. -/
theorem exists_whole {decimals : Nat} (few : decimals ≤ maxDecimals) {rank : Fin finiteCount}
    (fits : (finite false rank).magnitude * (10 ^ decimals : Nat) < overflow) :
    ∃ place, ((finite false rank).splitDecimals decimals).1 = finite false place := by
  have one : (1 : Rat) ≤ (10 ^ decimals : Nat) := by exact_mod_cast Nat.pow_pos (by decide)
  have power := isNear_power few
  obtain ⟨ticks, product⟩ := exists_nearest_eq (mul_nonneg (magnitude_nonneg _) (Nat.cast_nonneg _)) fits
  rw [← (isNear_self rank).mul_power few] at product
  obtain ⟨rounded, found⟩ := exists_round ticks
  obtain ⟨quotient, divided⟩ := exists_nearest_eq
    (div_nonneg (magnitude_nonneg (finite false rounded)) (zero_le_one.trans one))
    ((div_le_self (magnitude_nonneg _) one).trans_lt (magnitude_lt_overflow false rounded))
  rw [← (isNear_self rounded).div_eq power (one_pos.trans_le one)] at divided
  obtain ⟨place, whole, _⟩ := isNear_truncate quotient
  refine ⟨place, ?_⟩
  rw [splitDecimals, product, found, divided, whole]

end Binary64

namespace NumberLayout

variable (layout : NumberLayout) (locale : Locale) {magnitude : Binary64}

/-- What is shown of a finite whole part. -/
theorem integerDigits_of_finite {place : Fin finiteCount} (whole : (layout.split magnitude).1 = .finite false place) :
    (∀ c ∈ layout.integerDigits locale magnitude, c.isDigit = true ∨ c = locale.groupMark) ∧
      layout.effectivePadding ≤ (layout.integerDigits locale magnitude).countP Char.isDigit := by
  have decimal : ∀ c ∈ Binary64.wholeText (.finite false place), c.isDigit = true :=
    fun c member => isDigit_of_mem_decimalDigits member
  rw [integerDigits, whole]
  refine ⟨fun c member => ?_, le_countP_integerText decimal⟩
  refine (isDigit_of_mem_integerText decimal member).imp_right fun same => ?_
  unfold groupMark? at same
  split at same
  · exact (Option.some.inj same).symm
  · cases same

/-- What is shown of an infinite whole part has two letters, of which only one may be the mark. -/
theorem integerDigits_of_infinite (whole : (layout.split magnitude).1 = .infinite false) :
    ¬∀ c ∈ layout.integerDigits locale magnitude, c.isDigit = true ∨ c = locale.groupMark := by
  intro plain
  have padded : "inf".toList.IsSuffix ("inf".toList.leftpad layout.effectivePadding '0') := List.suffix_append _ _
  have inside : ∀ c ∈ "inf".toList, c ∈ layout.integerDigits locale magnitude := by
    intro c member
    rw [integerDigits, whole]
    exact (sublist_integerText _ _).subset (padded.subset member)
  have first := (plain 'i' (inside 'i' (by decide))).resolve_left (by decide)
  have second := (plain 'n' (inside 'n' (by decide))).resolve_left (by decide)
  exact absurd (first.trans second.symm) (by decide)

end NumberLayout

/-- Before the decimal mark stand digits, and the mark between groups of them, just if neither a percentage nor its
ticks pass the largest number. -/
theorem NumberSettings.preview_integer (settings : NumberSettings) (locale : Locale) {value : Binary64}
    (finite : value.isFinite = true) (nonzero : value.isZero = false) :
    let layout := settings.layout
    let integer := layout.integerDigits locale value.abs
    let shown := layout.shown layout.scale value.abs
    settings.preview locale value =
      settings.signedPreview value (layout.bodyText locale integer (layout.fractionDigits value.abs)) ∧
    ((∀ c ∈ integer, c.isDigit = true ∨ c = locale.groupMark) ∧
        layout.effectivePadding ≤ integer.countP Char.isDigit ∧
        (∀ name ∈ nonFiniteNames, ¬List.IsInfix name.toList integer) ↔
      shown.isFinite = true ∧ shown.magnitude * (10 ^ layout.effectiveDecimals : Nat) < Binary64.overflow) := by
  intro layout integer shown
  have few : layout.effectiveDecimals ≤ maxDecimals := Nat.min_le_right _ _
  refine ⟨settings.preview_eq_signedPreview locale finite nonzero, ?_⟩
  have endless : (layout.split value.abs).1 = .infinite false →
      ¬((∀ c ∈ integer, c.isDigit = true ∨ c = locale.groupMark) ∧
        layout.effectivePadding ≤ integer.countP Char.isDigit ∧
        ∀ name ∈ nonFiniteNames, ¬List.IsInfix name.toList integer) :=
    fun whole digits => layout.integerDigits_of_infinite locale whole digits.1
  rcases layout.shown_eq_or finite with ⟨rank, found⟩ | infinite
  · rw [show shown = _ from found]
    by_cases fits : (Binary64.finite false rank).magnitude * (10 ^ layout.effectiveDecimals : Nat) < Binary64.overflow
    · obtain ⟨place, whole⟩ := Binary64.exists_whole few fits
      rw [← found] at whole
      obtain ⟨plain, padded⟩ := layout.integerDigits_of_finite locale whole
      exact iff_of_true ⟨plain, padded, fun name member => not_infix_of_digits plain member⟩ ⟨rfl, fits⟩
    · refine iff_of_false (endless ?_) fun within => fits within.2
      have product := (Binary64.isNear_self rank).mul_power few
      rw [Binary64.nearest_eq_infinite (mt (Binary64.isFinite_nearest_iff ?_ false).mp fits)] at product
      · rw [NumberLayout.split, found, Binary64.splitDecimals_of_infinite few product]
      · exact mul_nonneg (Binary64.magnitude_nonneg _) (Nat.cast_nonneg _)
  · rw [show shown = _ from infinite]
    refine iff_of_false (endless ?_) fun within => Bool.false_ne_true within.1
    rw [NumberLayout.split, infinite, Binary64.splitDecimals_of_infinite few (Binary64.infinite_mul_power few)]

/-- A debt of more than fits in a word, filled up to 24 digits. -/
theorem NumberSettings.preview_integer_debt :
    let settings : NumberSettings := { layout := { integerPadding := 24 } }
    let value : Binary64 := .ofDecimal true ⟨1, 20⟩
    let integer := settings.layout.integerDigits {} value.abs
    (value.isFinite = true ∧ value.isZero = false) ∧
    settings.preview {} value = ⟨"($ 000,100,000,000,000,000,000,000.00)", some .red⟩ ∧
    (∀ c ∈ integer, c.isDigit = true ∨ c = ',') ∧ 24 ≤ integer.countP Char.isDigit := by
  intro settings value integer
  have finite : value.isFinite = true := by decide +kernel
  have nonzero : value.isZero = false := by decide +kernel
  obtain ⟨shown, digits⟩ := settings.preview_integer {} finite nonzero
  have fits : (settings.layout.shown settings.layout.scale value.abs).isFinite = true ∧
      (settings.layout.shown settings.layout.scale value.abs).magnitude *
        (10 ^ settings.layout.effectiveDecimals : Nat) < Binary64.overflow := by decide +kernel
  obtain ⟨plain, padded, _⟩ := digits.mpr fits
  exact ⟨⟨finite, nonzero⟩, shown.trans (by decide +kernel), plain, padded⟩

/-- The ticks of a number may pass the largest number where the number itself does not. -/
theorem NumberSettings.integer_overflows :
    let settings : NumberSettings := {
      layout := { currencySymbol := "" }
      positive := { padding := false } }
    let value : Binary64 := .ofDecimal false ⟨1, 308⟩
    value.isFinite = true ∧ value.isZero = false ∧ (settings.preview {} value).text = "inf.00" ∧
    settings.layout.integerDigits {} value = "inf".toList := by
  decide +kernel

end CellFormat

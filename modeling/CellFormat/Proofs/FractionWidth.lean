import CellFormat.Proofs.TicksRemainder

/-!
A fraction is shown with as many digits as there are decimals, unless its ticks have one of the lengths with which the
decimals may come to a whole one; and with each of these they do for some number. What becomes infinite on the way has
no fraction, and zeros are shown for it.
-/

namespace CellFormat

namespace Binary64

theorem exists_isNear_round {rank : Fin finiteCount} (small : (finite false rank).magnitude < 2 ^ 52) :
    ∃ ticks : Nat, (finite false rank).round.IsNear ticks 0 ∧ ticks < 2 ^ 53 := by
  have nonneg := magnitude_nonneg (finite false rank)
  have most := floor_toNat_le (show 0 ≤ (finite false rank).magnitude + 1 / 2 by linarith)
  have whole : ((finite false rank).magnitude + 1 / 2).floor.toNat < 2 ^ 53 := by
    have cast : (((finite false rank).magnitude + 1 / 2).floor.toNat : Rat) < (2 ^ 53 : Nat) := by
      push_cast
      linarith
    exact_mod_cast cast
  exact ⟨_, isNear_natCast whole, whole⟩

theorem IsNear.round_eq {x : Binary64} {n : Nat} (near : x.IsNear n 0) : x.round = x := by
  have value := near.magnitude_eq
  obtain ⟨rank, rfl, _⟩ := near
  have whole : ((n : Rat) + 1 / 2).floor.toNat = n := floor_toNat_eq (by linarith) (by linarith)
  rw [round, value, whole, ← value, nearest_magnitude]

theorem log2_steps {steps bits : Nat} (normal : 2 ^ 52 ≤ steps) (small : steps < 2 ^ 53) :
    (steps * 2 ^ bits).log2 = 52 + bits := by
  have lower := Nat.mul_le_mul_right (2 ^ bits) normal
  have upper := Nat.mul_lt_mul_of_pos_right small (Nat.two_pow_pos bits)
  rw [← Nat.pow_add] at lower upper
  refine (Nat.log2_eq_iff ((Nat.two_pow_pos _).trans_le lower).ne').mpr ⟨lower, ?_⟩
  rwa [Nat.add_right_comm]

section Ticks

variable {decimals : Nat} (few : decimals ≤ maxDecimals)

include few

theorem infinite_mul_power : infinite false * ofNat (Nat.pow 10 decimals) = infinite false := by
  have positive : (0 : Rat) < (10 ^ decimals : Nat) := by exact_mod_cast Nat.pow_pos (by decide)
  have nonzero := (isNear_power few).isZero_eq_false positive
  obtain ⟨rank, power, _⟩ := isNear_power few
  rw [power] at nonzero ⊢
  exact if_neg (Bool.eq_false_iff.mp nonzero)

/-- Ticks past the range have an infinite whole part, and what is left is no number. -/
theorem splitDecimals_of_infinite {x : Binary64} (endless : x * ofNat (Nat.pow 10 decimals) = infinite false) :
    x.splitDecimals decimals = (infinite false, nan) := by
  have product := infinite_mul_power few
  obtain ⟨rank, power, _⟩ := isNear_power few
  have same : (infinite false).round = infinite false := rfl
  have whole : (infinite false / finite false rank).truncate = infinite false := rfl
  rw [power] at product
  rw [splitDecimals, endless, same, power, whole, product]
  rfl

variable (fractional : 0 < decimals)

include fractional

/-- The whole part of a number of 52 bits at most is one of 53 bits at most. -/
theorem floor_quotient_lt {rank : Fin finiteCount} (small : (finite false rank).magnitude < 2 ^ 52) :
    (finite false rank * ofNat (Nat.pow 10 decimals) / ofNat (Nat.pow 10 decimals)).magnitude.floor.toNat < 2 ^ 53 := by
  obtain ⟨above, below, range⟩ := power_bounds few fractional
  have nonneg := magnitude_nonneg (finite false rank)
  have scale : (0 : Rat) < (10 ^ decimals : Nat) := by exact_mod_cast Nat.pow_pos (by decide)
  have aboveCast : (2 : Rat) ^ (10 ^ decimals).log2 < (10 ^ decimals : Nat) := by exact_mod_cast above
  have belowCast : ((10 ^ decimals : Nat) : Rat) < 2 ^ ((10 ^ decimals).log2 + 1) := by exact_mod_cast below
  have bound : (finite false rank).magnitude * (10 ^ decimals : Nat) < 2 ^ (52 + ((10 ^ decimals).log2 + 1)) := by
    rw [pow_add]
    exact mul_lt_mul'' small belowCast nonneg scale.le
  have product := isNear_nearest (mul_nonneg nonneg scale.le) bound (by omega)
  have upper :
      (finite false rank * ofNat (Nat.pow 10 decimals)).magnitude / (10 ^ decimals : Nat) < 2 ^ 52 + 1 / 2 := by
    obtain ⟨_, _, error⟩ := product
    have near := (abs_le.mp error).2
    have power : (2 : Rat) ^ (52 + ((10 ^ decimals).log2 + 1)) = 2 ^ 53 * 2 ^ (10 ^ decimals).log2 := by
      rw [← pow_add]
      congr 1
      omega
    rw [power] at near
    rw [(isNear_self rank).mul_power few, div_lt_iff₀ scale]
    have covered := mul_lt_mul_of_pos_right small scale
    linarith
  rw [← (isNear_self rank).mul_power few] at product
  rw [product.div_eq (isNear_power few) scale]
  have quotientNonneg := div_nonneg (magnitude_nonneg (finite false rank * ofNat (Nat.pow 10 decimals))) scale.le
  generalize (finite false rank * ofNat (Nat.pow 10 decimals)).magnitude / (10 ^ decimals : Nat) = quotient at *
  obtain ⟨_, _, error⟩ := isNear_nearest quotientNonneg (upper.trans (show (2 : Rat) ^ 52 + 1 / 2 < 2 ^ 53 by norm_num))
    (by decide)
  have near := (abs_le.mp error).2
  have whole := floor_toNat_le (magnitude_nonneg (nearest false quotient))
  have cast : ((nearest false quotient).magnitude.floor.toNat : Rat) < (2 ^ 53 : Nat) := by
    push_cast
    linarith
  exact_mod_cast cast

/-- The decimals that a number is split into are less than a whole one. -/
theorem toWord_splitDecimals_lt {rank : Fin finiteCount}
    (unspilled : (finite false rank * ofNat (Nat.pow 10 decimals)).round.wholeMagnitude.log2 ∉ spillingLogs decimals) :
    ((finite false rank).splitDecimals decimals).2.toWord < 10 ^ decimals := by
  have divisor : 0 < 10 ^ decimals := Nat.pow_pos (by decide)
  have word : 10 ^ decimals ≤ largestWord := (Nat.pow_le_pow_right (by decide) few).trans (show 10 ^ 10 ≤ _ by decide)
  have product := (isNear_self rank).mul_power few
  rcases nearest_eq_or ((finite false rank).magnitude * (10 ^ decimals : Nat)) with ⟨place, found⟩ | endless
  · rw [found] at product
    rcases lt_or_ge (finite false place).magnitude (2 ^ 52) with small | large
    · obtain ⟨ticks, near, bound⟩ := exists_isNear_round small
      rw [← product] at near
      have rest := Nat.mod_lt ticks divisor
      rw [(splitDecimals_of_ticks few near bound).2.toWord_natCast (rest.le.trans word)]
      exact rest
    obtain ⟨bits, steps, near, normal, fits⟩ := exists_steps large
    have split : ((finite false rank).splitDecimals decimals).2 = (finite false place).remainder decimals := by
      rw [splitDecimals, product, near.round_eq]
      rfl
    rw [split]
    rcases lt_or_ge (finite false rank).magnitude (2 ^ 52) with fine | whole
    · have least := floor_quotient_lt few fractional fine
      rw [product] at least unspilled
      rw [near.round_eq, near.wholeMagnitude_natCast, log2_steps normal fits] at unspilled
      exact toWord_remainder_lt few fractional near normal fits least unspilled
    · obtain ⟨exponent, significand, value, full, short⟩ := exists_steps whole
      rw [value.magnitude_eq, ← Nat.cast_mul] at found
      have finite : (nearest false (significand * 2 ^ exponent * 10 ^ decimals : Nat)).isFinite = true := by
        rw [found]
        rfl
      rw [← found]
      rcases Nat.lt_or_ge (significand * 2 ^ exponent * 10 ^ decimals) (2 ^ (53 + (exponent + (10 ^ decimals).log2)))
        with below | reached
      · rw [toWord_remainder_of_lt few fractional full short finite below]
        exact divisor
      · rw [toWord_remainder_of_le few fractional short finite reached]
        exact divisor
  · rw [splitDecimals_of_infinite few (product.trans endless)]
    exact divisor

end Ticks

end Binary64

/-- The number whose digits are shown for a magnitude is not below zero, and it is infinite where a percentage leaves
the range. -/
theorem NumberLayout.shown_eq_or (layout : NumberLayout) {value : Binary64} (finite : value.isFinite = true) :
    (∃ rank, layout.shown layout.scale value.abs = .finite false rank) ∨
      layout.shown layout.scale value.abs = .infinite false := by
  obtain ⟨rank, magnitude⟩ : ∃ rank, value.abs = .finite false rank := by
    cases value with
    | nan | infinite => cases finite
    | finite negative rank => exact ⟨rank, rfl⟩
  have steps : 1 ≤ 1000 ^ layout.scale.steps := Nat.pow_pos (by decide)
  have thousands : (1 : Rat) ≤ (1000 ^ layout.scale.steps : Nat) := by exact_mod_cast steps
  have fits : 1000 ^ layout.scale.steps < 2 ^ 53 := by
    cases layout.scale <;> decide
  have divisor : layout.scale.divisor.IsNear (1000 ^ layout.scale.steps : Nat) 0 := Binary64.isNear_ofNat fits
  have hundred : (100 : Binary64).IsNear (100 : Nat) 0 := Binary64.isNear_ofNat (by decide)
  have nonneg := Binary64.magnitude_nonneg (.finite false rank)
  obtain ⟨place, quotient⟩ := Binary64.exists_nearest_eq (div_nonneg nonneg (one_pos.trans_le thousands).le)
    ((div_le_self nonneg thousands).trans_lt (Binary64.magnitude_lt_overflow false rank))
  rw [shown, magnitude, (Binary64.isNear_self rank).div_eq divisor (one_pos.trans_le thousands), quotient]
  split
  · rw [(Binary64.isNear_self place).mul_eq hundred]
    exact Binary64.nearest_eq_or _
  · exact .inl ⟨place, rfl⟩

/-- A magnitude as it is shown, counted by the last of its decimals. -/
def NumberLayout.ticks (layout : NumberLayout) (magnitude : Binary64) : Nat :=
  (layout.shown layout.scale magnitude * .ofNat (Nat.pow 10 layout.effectiveDecimals)).round.wholeMagnitude

/-- Behind the decimal mark stand as many digits as there are decimals, unless the ticks are of a length that spills. -/
theorem NumberSettings.preview_fraction (settings : NumberSettings) (locale : Locale) {value : Binary64}
    (finite : value.isFinite = true) (nonzero : value.isZero = false)
    (fractional : 0 < settings.layout.effectiveDecimals)
    (unspilled : (settings.layout.ticks value.abs).log2 ∉ spillingLogs settings.layout.effectiveDecimals) :
    let layout := settings.layout
    let integer := layout.integerDigits locale value.abs
    let fraction := layout.fractionDigits value.abs
    settings.preview locale value = settings.signedPreview value (layout.placeCurrency layout.currencySymbol
      (String.ofList (integer ++ locale.decimalMark :: fraction ++ layout.scale.letterText ++ layout.percentText))) ∧
    (layout.split value.abs).2.toWord < 10 ^ layout.effectiveDecimals ∧
    fraction.length = layout.effectiveDecimals ∧ ∀ c ∈ fraction, c.isDigit = true := by
  intro layout integer fraction
  have few : layout.effectiveDecimals ≤ maxDecimals := Nat.min_le_right _ _
  have width : (layout.split value.abs).2.toWord < 10 ^ layout.effectiveDecimals := by
    rw [NumberLayout.split]
    rcases layout.shown_eq_or finite with ⟨rank, shown⟩ | endless
    · rw [NumberLayout.ticks, shown] at unspilled
      rw [shown]
      exact Binary64.toWord_splitDecimals_lt few fractional unspilled
    · rw [endless, Binary64.splitDecimals_of_infinite few (Binary64.infinite_mul_power few)]
      exact Nat.pow_pos (by decide)
  refine ⟨?_, width, length_paddedDigits fractional width, fun c member => isDigit_of_mem_paddedDigits member⟩
  rw [settings.preview_eq_signedPreview locale finite nonzero, NumberLayout.bodyText, if_pos fractional]

/-- A debt with four decimals. -/
theorem NumberSettings.preview_fraction_debt :
    let settings : NumberSettings := { layout := { decimals := 4 } }
    let layout := settings.layout
    let value : Binary64 := .ofDecimal true ⟨123456785, -5⟩
    let fraction := layout.fractionDigits value.abs
    (value.isFinite = true ∧ value.isZero = false ∧ 0 < layout.effectiveDecimals ∧
      (layout.ticks value.abs).log2 ∉ spillingLogs layout.effectiveDecimals) ∧
    settings.preview {} value = ⟨"($ 1,234.5679)", some .red⟩ ∧ fraction = "5679".toList ∧
    fraction.length = layout.effectiveDecimals := by
  intro settings layout value fraction
  have finite : value.isFinite = true := by decide +kernel
  have nonzero : value.isZero = false := by decide +kernel
  have unspilled : (layout.ticks value.abs).log2 ∉ spillingLogs layout.effectiveDecimals :=
    notMem_spillingLogs (by decide +kernel)
  obtain ⟨shown, _, width, _⟩ := settings.preview_fraction {} finite nonzero (by decide) unspilled
  exact ⟨⟨finite, nonzero, by decide, unspilled⟩, shown.trans (by decide +kernel), by decide +kernel, width⟩

/-- Decimals that come to more than a whole one: the ticks are a multiple of `2 ^ 16`, and the next such multiple below
is nearest to what the whole part comes to. -/
theorem NumberSettings.fraction_spills :
    let settings : NumberSettings := {
      layout := { decimals := 10, currencySymbol := "" }
      positive := { padding := false } }
    let layout := settings.layout
    let value : Binary64 := .ofNat 29552943704
    value.isFinite = true ∧ value.isZero = false ∧ layout.effectiveDecimals = 10 ∧
    (settings.preview {} value).text = "29,552,943,703.10000007168" ∧
    (layout.split value).2.toWord = 10000007168 ∧ (layout.fractionDigits value).length = 11 := by
  decide +kernel

/-- None of the lengths could be left out: with each of them some number is shown with a digit too many. -/
theorem NumberLayout.exists_spilling {decimals log : Nat} (few : decimals ≤ maxDecimals)
    (spilling : log ∈ spillingLogs decimals) :
    let layout : NumberLayout := { decimals := .ofNat decimals }
    ∃ n : Nat, (layout.ticks (.ofNat n)).log2 = log ∧ (layout.fractionDigits (.ofNat n)).length = decimals + 1 := by
  have each : ∀ decimals < maxDecimals + 1, ∀ log ∈ spillingLogs decimals,
      ∃ n ∈ [923670828025742, 922398778601, 2959744829024, 5905667968274, 378055552184231, 756997456094953,
        1516488506662761, 29552943704, 59142525415, 118079042768],
      ((({ decimals := .ofNat decimals } : NumberLayout).ticks (.ofNat n)).log2 = log ∧
        (({ decimals := .ofNat decimals } : NumberLayout).fractionDigits (.ofNat n)).length = decimals + 1) := by
    decide +kernel
  obtain ⟨n, _, spills⟩ := each decimals (Nat.lt_succ_of_le few) log spilling
  exact ⟨n, spills⟩

end CellFormat

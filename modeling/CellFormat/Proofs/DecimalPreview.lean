import CellFormat.Proofs.NumberBody
import CellFormat.Proofs.RoundingError

/-!
The preview of a number of few enough digits is its decimal digits. The errors of the arithmetic are too small to
reach another whole number of ticks, and ticks of 53 bits are split into whole part and decimals without error.
-/

namespace CellFormat

theorem floor_toNat_eq {q : Rat} {n : Nat} (lower : n ≤ q) (upper : q < n + 1) : q.floor.toNat = n := by
  have reached := le_floor_toNat lower
  have cast : (q.floor.toNat : Rat) < (n + 1 : Nat) := by
    push_cast
    exact (floor_toNat_le (le_trans (Nat.cast_nonneg n) lower)).trans_lt upper
  have below := Nat.cast_lt.mp cast
  omega

/-- The bits of a magnitude. -/
theorem exists_bits {q : Rat} : ∃ bits, q < 2 ^ bits ∧ (2 : Rat) ^ bits ≤ max 1 (2 * q) := by
  rcases lt_or_ge q 1 with below | above
  · exact ⟨0, by rwa [pow_zero], by rw [pow_zero]; exact le_max_left _ _⟩
  have whole : q.floor.toNat ≠ 0 := Nat.pos_iff_ne_zero.mp (le_floor_toNat (n := 1) (by exact_mod_cast above))
  have next : q.floor.toNat + 1 ≤ 2 ^ (q.floor.toNat.log2 + 1) := Nat.lt_log2_self
  have power : (2 : Rat) ^ q.floor.toNat.log2 ≤ q.floor.toNat := by exact_mod_cast Nat.log2_self_le whole
  refine ⟨q.floor.toNat.log2 + 1, (lt_floor_toNat_add_one q).trans_le (by exact_mod_cast next), ?_⟩
  rw [pow_succ']
  exact (mul_le_mul_of_nonneg_left (power.trans (floor_toNat_le (by linarith))) two_pos.le).trans (le_max_right _ _)

namespace Binary64

/-- The error of rounding, in proportion to the magnitude. -/
theorem exists_isNear_nearest {q : Rat} (nonneg : 0 ≤ q) (small : q < 2 ^ 64) :
    ∃ error, (nearest false q).IsNear q error ∧ error * 2 ^ 54 ≤ max 1 (2 * q) := by
  obtain ⟨bits, above, least⟩ := exists_bits (q := q)
  have range : bits < 65 := by
    refine (pow_lt_pow_iff_right₀ (one_lt_two (α := Rat))).mp (least.trans_lt ?_)
    exact max_lt (by norm_num) (by linarith)
  refine ⟨2 ^ bits / 2 ^ 54, isNear_nearest nonneg above (by omega), ?_⟩
  rwa [div_mul_cancel₀ _ (by norm_num)]

namespace IsNear

variable {x y : Binary64} {q error : Rat} {m n : Nat}

theorem truncate_natCast (near : x.IsNear q error) (lower : n + error ≤ q) (upper : q + error < n + 1)
    (small : n < 2 ^ 53) : x.truncate.IsNear n 0 := by
  obtain ⟨rank, rfl, bound⟩ := near
  rw [abs_le] at bound
  have whole : (finite false rank).magnitude.floor.toNat = n := floor_toNat_eq (by linarith) (by linarith)
  rw [truncate, whole]
  exact isNear_natCast small

theorem round_natCast (near : x.IsNear n error) (close : error < 1 / 2) (small : n < 2 ^ 53) :
    x.round.IsNear n 0 := by
  obtain ⟨rank, rfl, bound⟩ := near
  rw [abs_le] at bound
  have whole : ((finite false rank).magnitude + 1 / 2).floor.toNat = n :=
    floor_toNat_eq (by linarith) (by linarith)
  rw [round, whole]
  exact isNear_natCast small

theorem toWord_natCast (near : x.IsNear n 0) (small : n ≤ largestWord) : x.toWord = n := by
  rw [near.toWord_eq, Nat.min_eq_left small]

theorem wholeText_natCast (near : x.IsNear n 0) : x.wholeText = decimalDigits n := by
  have whole := near.wholeMagnitude_natCast
  obtain ⟨rank, rfl, _⟩ := near
  exact congrArg decimalDigits whole

theorem sub_eq (left : x.IsNear m 0) (right : y.IsNear n 0) :
    x - y = nearest (decide ((m : Rat) - n < 0)) ((m : Rat) - n).abs := by
  have value := left.magnitude_eq
  have otherValue := right.magnitude_eq
  obtain ⟨rank, rfl, _⟩ := left
  obtain ⟨other, rfl, _⟩ := right
  have sum : (finite false rank).toRat + (finite true other).toRat = m - n := by
    have opposite : (finite true other).magnitude = n := otherValue
    rw [toRat, toRat, isNegative, isNegative, if_neg Bool.false_ne_true, if_pos rfl, value, opposite, sub_eq_add_neg]
  have sign : (if (m : Rat) - n = 0 then false && true else decide ((m : Rat) - n < 0)) =
      decide ((m : Rat) - n < 0) := by
    split
    · next zero => rw [zero, Bool.false_and, decide_eq_false (lt_irrefl _)]
    · rfl
  show Binary64.add _ (finite true other) = _
  rw [Binary64.add, sum]
  exact congrArg (nearest · _) sign

/-- A difference of whole numbers that has 53 bits is exact, however large they are. -/
theorem sub_natCast (left : x.IsNear m 0) (right : y.IsNear n 0) (order : n ≤ m) (small : m - n < 2 ^ 53) :
    (x - y).IsNear (m - n : Nat) 0 := by
  have nonneg : (0 : Rat) ≤ m - n := sub_nonneg.mpr (Nat.cast_le.mpr order)
  rw [left.sub_eq right, decide_eq_false nonneg.not_gt, Rat.abs_of_nonneg nonneg, ← Nat.cast_sub order]
  exact isNear_natCast small

theorem toWord_sub_of_lt (left : x.IsNear m 0) (right : y.IsNear n 0) (less : m < n) : (x - y).toWord = 0 := by
  have negative : (m : Rat) - n < 0 := sub_neg.mpr (Nat.cast_lt.mpr less)
  rw [left.sub_eq right, decide_eq_true negative, nearest, ofRank]
  split <;> rfl

end IsNear

/-- A quotient's error, in parts of the divisor. -/
theorem exists_isNear_quotient {m n : Nat} (positive : 0 < n) (small : m < 2 ^ 53) : ∃ error,
    (nearest false ((m : Rat) / n)).IsNear (m / n) error ∧ error * n * 2 ^ 54 ≤ (max n (2 * m) : Nat) := by
  have scale : (0 : Rat) < n := by exact_mod_cast positive
  have one : (1 : Rat) ≤ n := by exact_mod_cast positive
  have bits : (m : Rat) < 2 ^ 53 := by exact_mod_cast small
  have limit : (m : Rat) / n ≤ m := div_le_self (Nat.cast_nonneg _) one
  obtain ⟨error, rounded, most⟩ := exists_isNear_nearest (q := (m : Rat) / n) (by positivity) (by linarith)
  refine ⟨error, rounded, ?_⟩
  have scaled := mul_le_mul_of_nonneg_right most scale.le
  rw [max_mul_of_nonneg _ _ scale.le, one_mul, mul_assoc 2, div_mul_cancel₀ _ scale.ne', mul_right_comm] at scaled
  rwa [Nat.cast_max, Nat.cast_mul, Nat.cast_ofNat]

/-- The power of ten that decimals are counted with. -/
theorem isNear_power {decimals : Nat} (few : decimals ≤ maxDecimals) :
    (ofNat (Nat.pow 10 decimals)).IsNear (10 ^ decimals : Nat) 0 := by
  have bound : 10 ^ decimals ≤ 10 ^ 10 := Nat.pow_le_pow_right (by decide) few
  exact isNear_ofNat (bound.trans_lt (by decide))

section Ticks

variable {decimals ticks : Nat} (few : decimals ≤ maxDecimals) {x : Binary64}

include few

/-- The quotient of ticks of 53 bits errs by less than what it is away from the next whole number. -/
theorem isNear_quotient (near : x.IsNear ticks 0) (small : ticks < 2 ^ 53) :
    (x / ofNat (Nat.pow 10 decimals)).truncate.IsNear (ticks / 10 ^ decimals : Nat) 0 := by
  have positive : 0 < 10 ^ decimals := Nat.pow_pos (by decide)
  have bound : 10 ^ decimals ≤ 10 ^ 10 := Nat.pow_le_pow_right (by decide) few
  have whole := Nat.div_add_mod' ticks (10 ^ decimals)
  have rest := Nat.mod_lt ticks positive
  have least : ticks / 10 ^ decimals < 2 ^ 53 := (Nat.div_le_self _ _).trans_lt small
  obtain ⟨error, rounded, tiny⟩ := exists_isNear_quotient positive small
  rw [near.div_eq (isNear_power few) (by exact_mod_cast positive), near.magnitude_eq]
  generalize 10 ^ decimals = divisor at *
  generalize ticks / divisor = quotient, ticks % divisor = remainder at *
  have scale : (0 : Rat) < divisor := by exact_mod_cast positive
  have split : (ticks : Rat) = quotient * divisor + remainder := by exact_mod_cast whole.symm
  rcases Nat.eq_zero_or_pos remainder with rfl | inexact
  · rw [split, Nat.cast_zero, add_zero, mul_div_cancel_right₀ _ scale.ne']
    exact (isNear_natCast least).truncate_natCast (by simp) (by simp) least
  · have above : (1 : Rat) ≤ remainder := by exact_mod_cast inexact
    have below : (remainder : Rat) + 1 ≤ divisor := by exact_mod_cast rest
    have most : ((max divisor (2 * ticks) : Nat) : Rat) < (2 ^ 54 : Nat) := Nat.cast_lt.mpr (by omega)
    have under : error * divisor < 1 := by
      push_cast at most tiny
      linarith
    refine rounded.truncate_natCast ?_ ?_ least
    · rw [le_div_iff₀ scale, add_mul]
      linarith
    · rw [← lt_sub_iff_add_lt, div_lt_iff₀ scale, sub_mul, add_mul]
      linarith

/-- Ticks of 53 bits are split without error. -/
theorem splitDecimals_of_ticks (near : (x * ofNat (Nat.pow 10 decimals)).round.IsNear ticks 0)
    (small : ticks < 2 ^ 53) : (x.splitDecimals decimals).1.IsNear (ticks / 10 ^ decimals : Nat) 0 ∧
      (x.splitDecimals decimals).2.IsNear (ticks % 10 ^ decimals : Nat) 0 := by
  have whole := isNear_quotient few near small
  have below : ticks / 10 ^ decimals * 10 ^ decimals ≤ ticks := Nat.div_mul_le_self _ _
  have product := whole.mul_natCast (isNear_power few) (below.trans_lt small)
  have rest : ticks - ticks / 10 ^ decimals * 10 ^ decimals = ticks % 10 ^ decimals := by
    rw [Nat.mod_eq_sub_div_mul]
  refine ⟨whole, rest ▸ near.sub_natCast product below (by omega)⟩

/-- The number nearest to a decimal is counted as the ticks of the decimal. -/
theorem isNear_ticks (bound : ticks < 10 ^ 15) :
    (nearest false (ticks / (10 ^ decimals : Nat)) * ofNat (Nat.pow 10 decimals)).round.IsNear ticks 0 := by
  have small : ticks < 2 ^ 53 := bound.trans (by decide)
  have largest : 10 ^ decimals ≤ 10 ^ 10 := Nat.pow_le_pow_right (by decide) few
  have positive : 0 < 10 ^ decimals := Nat.pow_pos (by decide)
  obtain ⟨error, rounded, tiny⟩ := exists_isNear_quotient positive small
  have power := isNear_power few
  generalize 10 ^ decimals = divisor at *
  have scale : (divisor : Rat) ≠ 0 := by exact_mod_cast positive.ne'
  have ticksBound : (ticks : Rat) < 10 ^ 15 := by exact_mod_cast bound
  have most : ((max divisor (2 * ticks) : Nat) : Rat) ≤ (2 * 10 ^ 15 : Nat) := Nat.cast_le.mpr (by omega)
  push_cast at most tiny
  have value : (ticks : Rat) / divisor * divisor = ticks := div_mul_cancel₀ _ scale
  have product := rounded.mul power 50 (by rw [add_mul, value]; linarith) (by decide)
  rw [value] at product
  exact product.round_natCast (by linarith) small

end Ticks

/-- A number nearest to a magnitude that the error does not reach down from to zero. -/
theorem nearest_of_isNear {q error : Rat} (near : (nearest false q).IsNear q error) (above : error < q)
    (negative : Bool) : (nearest negative q).isFinite = true ∧ (nearest negative q).isZero = false ∧
      (nearest negative q).lt .zero = negative ∧ (nearest negative q).abs = nearest false q := by
  obtain ⟨rank, found, bound⟩ := near
  have signed : nearest negative q = finite negative rank := ofRank_sign found negative
  have place : 0 < rank.val := by
    refine (magnitude_pos_iff false rank).mp ?_
    rw [found, abs_le] at bound
    linarith
  have magnitude := (magnitude_pos_iff negative rank).mpr place
  rw [signed, found]
  refine ⟨rfl, ?_, ?_, rfl⟩
  · cases negative <;> simp [isZero, place?, place.ne']
  · rw [Bool.eq_iff_iff, lt_zero_iff rfl, toRat]
    cases negative with
    | false => simpa [isNegative] using magnitude.le
    | true => simpa [isNegative] using magnitude

end Binary64

theorem NumberLayout.shown_eq_self {layout : NumberLayout} (unscaled : layout.scale = .none)
    (noPercentage : layout.percentage = false) {x : Binary64} {q error : Rat} (near : x.IsNear q error) :
    layout.shown layout.scale x = x := by
  have divisor : Scale.none.divisor.IsNear (1 : Nat) 0 := Binary64.isNear_ofNat (n := 1) (by decide)
  rw [shown, unscaled, noPercentage, if_neg Bool.false_ne_true, near.div_eq divisor (by norm_num), Nat.cast_one,
    div_one]
  obtain ⟨rank, rfl, _⟩ := near
  exact Binary64.nearest_magnitude false false rank

/-- A number of at most fifteen digits, so many of them decimals as are shown, is shown by these digits. -/
theorem NumberSettings.preview_decimal (settings : NumberSettings) (locale : Locale)
    (unscaled : settings.layout.scale = .none) (noPercentage : settings.layout.percentage = false) {ticks : Nat}
    (positive : 0 < ticks) (bound : ticks < 10 ^ 15) (negative : Bool) :
    let layout := settings.layout
    let decimals := layout.effectiveDecimals
    let integer := (Nat.toDigits 10 (ticks / 10 ^ decimals)).leftpad layout.effectivePadding '0'
    let fraction := (Nat.toDigits 10 (ticks % 10 ^ decimals)).leftpad decimals '0'
    let grouped := if layout.grouping then groupDigits locale.groupMark integer else integer
    let body := layout.withCurrency
      (String.ofList (grouped ++ if 0 < decimals then locale.decimalMark :: fraction else []))
    settings.preview locale (.nearest negative (ticks / (10 ^ decimals : Nat))) = settings.shownBody negative body ∧
    (locale.groupMark.isDigit = false → grouped.filter (· != locale.groupMark) = integer) ∧
    (0 < decimals → fraction.length = decimals) := by
  intro layout decimals integer fraction grouped body
  have few : decimals ≤ maxDecimals := Nat.min_le_right _ _
  have small : ticks < 2 ^ 53 := bound.trans (by decide)
  have power : 0 < 10 ^ decimals := Nat.pow_pos (by decide)
  obtain ⟨error, near, tiny⟩ := Binary64.exists_isNear_quotient power small
  have above : error < ticks / (10 ^ decimals : Nat) := by
    have largest : 10 ^ decimals ≤ 10 ^ 10 := Nat.pow_le_pow_right (by decide) few
    have scale : (0 : Rat) < (10 ^ decimals : Nat) := by exact_mod_cast power
    have most : ((max (10 ^ decimals) (2 * ticks) : Nat) : Rat) < (ticks * 2 ^ 54 : Nat) :=
      Nat.cast_lt.mpr (by omega)
    rw [lt_div_iff₀ scale]
    push_cast at most tiny ⊢
    linarith
  obtain ⟨finite, nonzero, sign, magnitude⟩ := Binary64.nearest_of_isNear near above negative
  obtain ⟨whole, rest⟩ := Binary64.splitDecimals_of_ticks few (Binary64.isNear_ticks few bound) small
  have remainder : ticks % 10 ^ decimals < 10 ^ decimals := Nat.mod_lt _ power
  refine ⟨?_, ?_, fun some => length_paddedDigits some remainder⟩
  · have word : ticks % 10 ^ decimals ≤ Binary64.largestWord := (Nat.mod_le _ _).trans (small.le.trans (by decide))
    have split : layout.split (.nearest false (ticks / (10 ^ decimals : Nat))) =
        (Binary64.nearest false (ticks / (10 ^ decimals : Nat))).splitDecimals decimals := by
      rw [NumberLayout.split, NumberLayout.shown_eq_self unscaled noPercentage near]
    have text : layout.bodyText locale (layout.integerDigits locale (.nearest false (ticks / (10 ^ decimals : Nat))))
        (layout.fractionDigits (.nearest false (ticks / (10 ^ decimals : Nat)))) = body := by
      rw [NumberLayout.integerDigits, NumberLayout.fractionDigits, split, whole.wholeText_natCast,
        rest.toWord_natCast word, NumberLayout.integerText_groupMark?, NumberLayout.bodyText,
        NumberLayout.placeCurrency_symbol, NumberLayout.percentText, noPercentage, unscaled,
        if_neg Bool.false_ne_true, List.append_nil]
      exact congrArg (fun text => layout.withCurrency (String.ofList text)) (List.append_nil _)
    rw [settings.preview_eq_signedPreview locale finite nonzero, signedPreview, sign, magnitude, text]
  · intro noDigit
    have kept : integer.filter (· != locale.groupMark) = integer := by
      refine List.filter_eq_self.mpr fun c member => bne_iff_ne.mpr ?_
      rintro rfl
      exact Bool.false_ne_true (noDigit.symm.trans (isDigit_of_mem_paddedDigits member))
    by_cases grouping : layout.grouping
    · rw [show grouped = groupDigits locale.groupMark integer from if_pos grouping, filter_groupDigits, kept]
    · rw [show grouped = integer from if_neg grouping, kept]

/-- A debt of eight digits with its currency behind it, filled up to nine digits before the mark; a credit of five
cents; and one of seven digits without decimals, currency or room for a parenthesis. -/
theorem NumberSettings.preview_decimal_debt_and_credit :
    let debt : NumberSettings := {
      layout := { integerPadding := 9, currencySymbol := "€", currencyPosition := .after } }
    let credit : NumberSettings := {}
    let bare : NumberSettings := {
      layout := { decimals := 0, currencySymbol := "" }, positive := { padding := false } }
    (debt.layout.scale = .none ∧ debt.layout.percentage = false ∧ 0 < 99999995 ∧ 99999995 < 10 ^ 15) ∧
    debt.preview {} (.nearest true ((99999995 : Nat) / (10 ^ 2 : Nat))) = ⟨"(000,999,999.95 €)", some .red⟩ ∧
    credit.preview {} (.nearest false ((5 : Nat) / (10 ^ 2 : Nat))) = ⟨"$ 0.05 ", none⟩ ∧
    bare.preview {} (.nearest false ((1234567 : Nat) / (10 ^ 0 : Nat))) = ⟨"1,234,567", none⟩ := by
  intro debt credit bare
  obtain ⟨owed, _⟩ := @preview_decimal debt {} rfl rfl 99999995 (by decide) (by decide) true
  obtain ⟨owned, _⟩ := @preview_decimal credit {} rfl rfl 5 (by decide) (by decide) false
  obtain ⟨plain, _⟩ := @preview_decimal bare {} rfl rfl 1234567 (by decide) (by decide) false
  exact ⟨⟨rfl, rfl, by decide, by decide⟩, owed.trans (by decide), owned.trans (by decide), plain.trans (by decide)⟩

end CellFormat

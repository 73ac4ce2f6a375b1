import CellFormat.Proofs.DecimalPreview
import CellFormat.Proofs.RoundingGrid

/-!
What ticks leave over a whole part. Past 53 bits the ticks and what the whole part comes to are rounded apart, and what
is left between them may then be a whole one or more: with four, seven, eight and ten decimals it is for some numbers,
which all have ticks of certain lengths.
-/

namespace CellFormat

/-- Whether, with ticks that are multiples of a power of two, the decimals may come to a whole one: if the multiple
next above a whole one is no further from it than the whole part is rounded. -/
def Spills (decimals bits : Nat) : Prop :=
  2 ^ bits * (10 ^ decimals + 2 * 2 ^ (10 ^ decimals).log2) ≤
    4 * 2 ^ (10 ^ decimals).log2 * (10 ^ decimals % 2 ^ bits)

instance (decimals bits : Nat) : Decidable (Spills decimals bits) := Nat.decLe _ _

/-- The binary logarithms of the ticks of which the decimals may come to a whole one. -/
def spillingLogs : Nat → List Nat
  | 4 | 7 => [63]
  | 8 => [68, 69, 75, 76, 77]
  | 10 => [68, 69, 70]
  | _ => []

theorem Spills.mem_spillingLogs {decimals bits : Nat} (spills : Spills decimals bits) (few : decimals ≤ maxDecimals)
    (range : bits < 36) : 52 + bits ∈ spillingLogs decimals := by
  have table : ∀ decimals < maxDecimals + 1, ∀ bits < 36, Spills decimals bits → 52 + bits ∈ spillingLogs decimals := by
    decide +kernel
  exact table _ (Nat.lt_succ_of_le few) _ range spills

/-- Shorter ticks than of 64 bits have decimals that are less than a whole one. -/
theorem notMem_spillingLogs {decimals log : Nat} (short : log < 63) : log ∉ spillingLogs decimals := by
  unfold spillingLogs
  split <;> simp <;> omega

/-- A whole number that is no less than the least of a significand's bits is not rounded below it. -/
theorem le_significand_of_multiple {n significand step : Nat} (positive : 0 < step) (lower : 2 ^ 52 * step ≤ n)
    (error : 2 * n ≤ 2 * (significand * step) + step) : 2 ^ 52 ≤ significand := by
  by_contra small
  have most := Nat.mul_le_mul_right step (Nat.lt_of_not_le small)
  linarith

/-- Of two multiples that are half a step from a number at most, and one of them less, both are the same. -/
theorem multiple_unique {step n left right : Nat} (near : 2 * n < 2 * (left * step) + step)
    (within : 2 * (left * step) < 2 * n + step) (lower : 2 * n ≤ 2 * (right * step) + step)
    (upper : 2 * (right * step) ≤ 2 * n + step) : left = right := by
  rcases lt_trichotomy left right with less | same | more
  · have next := Nat.mul_le_mul_right step less
    rw [Nat.succ_mul] at next
    omega
  · exact same
  · have next := Nat.mul_le_mul_right step more
    rw [Nat.succ_mul] at next
    omega

section Excess

variable {bits power divisor whole steps exponent significand : Nat}
  (error : 2 * (whole * divisor) ≤ 2 * (significand * 2 ^ exponent) + 2 ^ exponent)
  (exceeds : significand * 2 ^ exponent + divisor ≤ steps * 2 ^ bits)

include error exceeds

/-- Where ticks exceed what a whole part comes to by a whole one, this is rounded no finer than the ticks. -/
theorem bits_le_of_exceeds (above : 2 ^ power < divisor)
    (close : 2 ^ bits * divisor + 4 * 2 ^ power * (steps * 2 ^ bits) ≤ 4 * 2 ^ power * ((whole + 1) * divisor)) :
    bits ≤ exponent := by
  by_contra finer
  have doubled : 2 * 2 ^ exponent ≤ 2 ^ bits := by
    rw [← Nat.pow_succ']
    exact Nat.pow_le_pow_right two_pos (Nat.lt_of_not_le finer)
  have step : 0 < 2 ^ bits := Nat.two_pow_pos bits
  generalize 2 ^ bits = unit, 2 ^ exponent = fine, 2 ^ power = below at *
  have product : 4 * ((whole + 1) * divisor) ≤ 4 * (steps * unit) + unit := by linarith
  have scaled := Nat.mul_le_mul_left below product
  have strict := Nat.mul_lt_mul_of_pos_left above step
  linarith

/-- A number that is less than the ticks is rounded no coarser. -/
theorem le_bits_of_exceeds (small : steps < 2 ^ 53) (normal : exponent = 0 ∨ 2 ^ (52 + exponent) ≤ whole * divisor) :
    exponent ≤ bits := by
  by_contra coarser
  have lower := normal.resolve_left (by omega)
  rw [Nat.pow_add] at lower
  have reached := le_significand_of_multiple (Nat.two_pow_pos exponent) lower error
  have doubled : 2 * 2 ^ bits ≤ 2 ^ exponent := by
    rw [← Nat.pow_succ']
    exact Nat.pow_le_pow_right two_pos (Nat.lt_of_not_le coarser)
  have product := Nat.mul_le_mul reached doubled
  have most := Nat.mul_lt_mul_of_pos_right small (Nat.two_pow_pos bits)
  omega

end Excess

/-- Ticks exceed what a whole part comes to by multiples of a power of two only, so that they do so by what follows a
whole one. -/
theorem spills_of_exceeds {bits power divisor whole steps significand : Nat} (above : 2 ^ power < divisor)
    (close : 2 ^ bits * divisor + 4 * 2 ^ power * (steps * 2 ^ bits) ≤ 4 * 2 ^ power * ((whole + 1) * divisor))
    (error : 2 * (whole * divisor) ≤ 2 * (significand * 2 ^ bits) + 2 ^ bits)
    (exceeds : significand * 2 ^ bits + divisor ≤ steps * 2 ^ bits) :
    2 ^ bits * (divisor + 2 * 2 ^ power) ≤ 4 * 2 ^ power * (divisor % 2 ^ bits) := by
  have step : 0 < 2 ^ bits := Nat.two_pow_pos bits
  have multiple := Nat.div_add_mod' divisor (2 ^ bits)
  generalize 2 ^ bits = unit, 2 ^ power = below at *
  generalize divisor / unit = times, divisor % unit = remainder at *
  rcases Nat.eq_zero_or_pos remainder with rfl | inexact
  · -- a whole one is such a multiple itself: nothing is rounded, and what is left is less than a whole one
    exfalso
    have upper : whole * times ≤ significand := by
      by_contra larger
      have most := Nat.mul_le_mul_right unit (Nat.lt_of_not_le larger)
      rw [← multiple] at error
      linarith
    have covered := Nat.mul_le_mul_right unit upper
    have product : (whole + 1) * divisor ≤ steps * unit := by
      rw [← multiple] at exceeds ⊢
      linarith
    have scaled := Nat.mul_le_mul_left (4 * below) product
    have filled := Nat.mul_pos step (Nat.zero_lt_of_lt above)
    linarith
  · obtain ⟨extra, rfl⟩ : ∃ extra, steps = significand + extra :=
      Nat.exists_eq_add_of_le (Nat.le_of_mul_le_mul_right (by omega) step)
    have next : times + 1 ≤ extra := by
      by_contra fewer
      have most := Nat.mul_le_mul_right unit (Nat.le_of_lt_succ (Nat.lt_of_not_le fewer))
      linarith
    have product : 2 * ((whole + 1) * divisor) ≤ 2 * (significand * unit) + unit + 2 * divisor := by linarith
    have scaled := Nat.mul_le_mul_left (2 * below) product
    have filled := Nat.mul_le_mul_left (4 * below) (Nat.mul_le_mul_right unit next)
    subst multiple
    linarith

namespace Binary64

/-- A quotient that is rounded to less than the next whole number is at least half a step below it. -/
theorem close_of_quotient_lt {ticks divisor bits power whole : Nat} (below : divisor < 2 ^ (power + 1))
    (range : power ≤ 51) (reached : 2 ^ (52 + bits) ≤ ticks) (small : whole < 2 ^ 53)
    (finite : (nearest false ((ticks : Rat) / divisor)).isFinite = true) (positive : 0 < divisor)
    (next : (nearest false ((ticks : Rat) / divisor)).magnitude < whole + 1) :
    2 ^ bits * divisor + 4 * 2 ^ power * ticks ≤ 4 * 2 ^ power * ((whole + 1) * divisor) := by
  obtain ⟨places, sum⟩ : ∃ places, 51 + bits = places + power := Nat.exists_eq_add_of_le' (by omega)
  have scale : (0 : Rat) < divisor := by exact_mod_cast positive
  have least : (2 : Rat) ^ places ≤ ticks / divisor := by
    rw [le_div_iff₀ scale]
    have product := Nat.mul_le_mul_left (2 ^ places) below.le
    rw [← Nat.pow_add, ← Nat.add_assoc, ← sum, show 51 + bits + 1 = 52 + bits by omega] at product
    exact_mod_cast product.trans reached
  have far : (ticks : Rat) / divisor + 2 ^ places / 2 ^ 53 ≤ (whole + 1 : Nat) := by
    by_contra near
    have rounded := natCast_le_nearest finite (Nat.succ_le_of_lt small) least (not_le.mp near)
    push_cast at rounded
    linarith
  have scaled := mul_le_mul_of_nonneg_right far scale.le
  rw [add_mul, div_mul_cancel₀ _ scale.ne', div_mul_eq_mul_div] at scaled
  have half : (2 : Rat) ^ places * 2 ^ power * divisor = 2 ^ 51 * 2 ^ bits * divisor := by
    rw [← pow_add, ← pow_add, sum]
  have inUnits := mul_le_mul_of_nonneg_left scaled (show (0 : Rat) ≤ 4 * 2 ^ power by positivity)
  push_cast at inUnits
  have bound : (2 : Rat) ^ bits * divisor + 4 * 2 ^ power * ticks ≤ 4 * 2 ^ power * ((whole + 1) * divisor) := by
    linarith
  exact_mod_cast bound

/-- The decimals that ticks leave over a whole part. -/
def remainder (decimals : Nat) (ticks : Binary64) : Binary64 :=
  let power := ofNat (Nat.pow 10 decimals)
  ticks - (ticks / power).truncate * power

section Remainder

variable {decimals : Nat} (few : decimals ≤ maxDecimals) (fractional : 0 < decimals)

include few fractional

theorem power_bounds : 2 ^ (10 ^ decimals).log2 < 10 ^ decimals ∧ 10 ^ decimals < 2 ^ ((10 ^ decimals).log2 + 1) ∧
    (10 ^ decimals).log2 ≤ 33 := by
  have table : ∀ decimals < maxDecimals + 1, 0 < decimals → 2 ^ (10 ^ decimals).log2 < 10 ^ decimals ∧
      10 ^ decimals < 2 ^ ((10 ^ decimals).log2 + 1) ∧ (10 ^ decimals).log2 ≤ 33 := by decide +kernel
  exact table decimals (Nat.lt_succ_of_le few) fractional

/-- No power of ten is just so close to a quotient of a power of two. -/
theorem power_excess : 2 * (2 ^ (53 + (10 ^ decimals).log2) % 10 ^ decimals) ≤ 10 ^ decimals →
    2 * (2 ^ (53 + (10 ^ decimals).log2) % 10 ^ decimals) < 2 ^ (10 ^ decimals).log2 := by
  have table : ∀ decimals < maxDecimals + 1, 0 < decimals →
      2 * (2 ^ (53 + (10 ^ decimals).log2) % 10 ^ decimals) ≤ 10 ^ decimals →
      2 * (2 ^ (53 + (10 ^ decimals).log2) % 10 ^ decimals) < 2 ^ (10 ^ decimals).log2 := by decide +kernel
  exact table decimals (Nat.lt_succ_of_le few) fractional

omit fractional in
theorem exists_quotient_eq {x : Binary64} {n : Nat} (near : x.IsNear n 0) : ∃ rank,
    x / ofNat (Nat.pow 10 decimals) = finite false rank ∧
      nearest false ((n : Rat) / (10 ^ decimals : Nat)) = finite false rank := by
  have divisor : (1 : Rat) ≤ (10 ^ decimals : Nat) := by exact_mod_cast Nat.pow_pos (by decide)
  have limit := near.magnitude_lt_overflow
  rw [near.div_eq (isNear_power few) (lt_of_lt_of_le one_pos divisor)]
  rw [near.magnitude_eq] at limit ⊢
  obtain ⟨rank, quotient⟩ := exists_nearest_eq (q := (n : Rat) / (10 ^ decimals : Nat)) (by positivity)
    ((div_le_self (Nat.cast_nonneg n) divisor).trans_lt limit)
  exact ⟨rank, quotient, quotient⟩

omit fractional in
theorem IsNear.mul_power {x : Binary64} {q error : Rat} (near : x.IsNear q error) :
    x * ofNat (Nat.pow 10 decimals) = nearest false (x.magnitude * (10 ^ decimals : Nat)) := by
  rw [near.mul_eq (isNear_power few), (isNear_power few).magnitude_eq]

omit fractional in
theorem IsNear.mul_power_natCast {x : Binary64} {n : Nat} (near : x.IsNear n 0) :
    x * ofNat (Nat.pow 10 decimals) = nearest false (n * 10 ^ decimals : Nat) := by
  rw [near.mul_power few, near.magnitude_eq, Nat.cast_mul]

omit fractional in
/-- Where ticks leave something over a whole part, what this comes to is no more than they are. -/
theorem exists_product {x whole : Binary64} {m n : Nat} (near : x.IsNear m 0) (times : whole.IsNear n 0)
    (left : (x - whole * ofNat (Nat.pow 10 decimals)).toWord ≠ 0) : ∃ exponent significand,
    (whole * ofNat (Nat.pow 10 decimals)).IsNear (significand * 2 ^ exponent : Nat) 0 ∧
    significand * 2 ^ exponent ≤ m ∧ n * 10 ^ decimals < 2 ^ (53 + exponent) ∧
    (exponent = 0 ∨ 2 ^ (52 + exponent) ≤ n * 10 ^ decimals) ∧
    2 * (n * 10 ^ decimals) ≤ 2 * (significand * 2 ^ exponent) + 2 ^ exponent := by
  have product := times.mul_power_natCast few
  by_cases finite : (nearest false ((n * 10 ^ decimals : Nat) : Rat)).isFinite = true
  · obtain ⟨exponent, significand, rounded, upper, lower, error, _⟩ := exists_multiple finite
    rw [← product] at rounded
    refine ⟨exponent, significand, rounded, ?_, upper, lower, error⟩
    by_contra more
    exact left (near.toWord_sub_of_lt rounded (Nat.lt_of_not_le more))
  · obtain ⟨rank, rfl, _⟩ := near
    rw [product, nearest_eq_infinite finite] at left
    exact absurd rfl left

/-- Ticks of more than 53 bits over a whole part of at most so many leave less than a whole one, unless the decimals
may spill. -/
theorem toWord_remainder_lt {x : Binary64} {bits steps : Nat} (near : x.IsNear (steps * 2 ^ bits : Nat) 0)
    (normal : 2 ^ 52 ≤ steps) (small : steps < 2 ^ 53)
    (least : (x / ofNat (Nat.pow 10 decimals)).magnitude.floor.toNat < 2 ^ 53)
    (unspilled : 52 + bits ∉ spillingLogs decimals) :
    (x.remainder decimals).toWord < 10 ^ decimals := by
  obtain ⟨above, below, range⟩ := power_bounds few fractional
  have divisor : 0 < 10 ^ decimals := Nat.pow_pos (by decide)
  have largest : 10 ^ decimals ≤ 10 ^ 10 := Nat.pow_le_pow_right (by decide) few
  have reached : 2 ^ (52 + bits) ≤ steps * 2 ^ bits := by
    rw [Nat.pow_add]
    exact Nat.mul_le_mul_right _ normal
  obtain ⟨rank, divided, quotient⟩ := exists_quotient_eq few near
  have next := lt_floor_toNat_add_one (x / ofNat (Nat.pow 10 decimals)).magnitude
  have truncated : (x / ofNat (Nat.pow 10 decimals)).truncate.IsNear
      (x / ofNat (Nat.pow 10 decimals)).magnitude.floor.toNat 0 := by
    rw [divided] at least ⊢
    exact isNear_natCast least
  generalize (x / ofNat (Nat.pow 10 decimals)).magnitude.floor.toNat = whole at *
  have close := close_of_quotient_lt below (by omega) reached least (by rw [quotient]; rfl) divisor
    (by rwa [quotient, ← divided])
  by_contra large
  obtain ⟨exponent, significand, product, order, _, lower, error⟩ :=
    exists_product few near truncated fun nothing => large (nothing.trans_lt divisor)
  have exceeds : significand * 2 ^ exponent + 10 ^ decimals ≤ steps * 2 ^ bits := by
    by_contra within
    have word : 10 ^ 10 ≤ largestWord := by decide
    have difference := (near.sub_natCast product order (by omega)).toWord_natCast (by omega)
    rw [remainder, difference] at large
    omega
  obtain rfl : exponent = bits :=
    le_antisymm (le_bits_of_exceeds error exceeds small lower) (bits_le_of_exceeds error exceeds above close)
  have bound : exponent < 36 := by
    have total : steps * 2 ^ exponent ≤ (whole + 1) * 10 ^ decimals :=
      Nat.le_of_mul_le_mul_left (by omega) (show 0 < 4 * 2 ^ (10 ^ decimals).log2 by positivity)
    have most : (whole + 1) * 10 ^ decimals ≤ 2 ^ 53 * 10 ^ 10 := Nat.mul_le_mul (Nat.succ_le_of_lt least) largest
    by_contra more
    have power := Nat.pow_le_pow_right two_pos (show 88 ≤ 52 + exponent by omega)
    omega
  exact unspilled (Spills.mem_spillingLogs (spills_of_exceeds above close error exceeds) few bound)

omit fractional in
/-- Ticks leave nothing over a whole part that comes to as much. -/
theorem toWord_remainder_eq_zero {x : Binary64} {m n : Nat} (near : x.IsNear m 0)
    (quotient : (nearest false ((m : Rat) / (10 ^ decimals : Nat))).IsNear n 0)
    (product : (nearest false (n * 10 ^ decimals : Nat)).isFinite = true →
      (nearest false (n * 10 ^ decimals : Nat)).IsNear m 0) : (x.remainder decimals).toWord = 0 := by
  obtain ⟨rank, divided, found⟩ := exists_quotient_eq few near
  rw [found, ← divided] at quotient
  rw [remainder, quotient.truncate_eq, quotient.mul_power_natCast few]
  by_cases finite : (nearest false ((n * 10 ^ decimals : Nat) : Rat)).isFinite = true
  · have difference := near.sub_natCast (product finite) le_rfl (by omega)
    rw [difference.toWord_natCast (by omega), Nat.sub_self]
  · obtain ⟨_, rfl, _⟩ := near
    rw [nearest_eq_infinite finite]
    rfl

/-- The ticks of the least significand are a multiple of what the ticks are rounded to, so that they are not rounded
below them. -/
theorem least_ticks_le {bits steps significand : Nat} (normal : 2 ^ 52 ≤ steps)
    (lower : 2 * (steps * 2 ^ bits * 10 ^ decimals) ≤
      2 * (significand * 2 ^ (bits + (10 ^ decimals).log2)) + 2 ^ (bits + (10 ^ decimals).log2)) :
    2 ^ (52 + bits) * 10 ^ decimals ≤ significand * 2 ^ (bits + (10 ^ decimals).log2) := by
  obtain ⟨_, _, range⟩ := power_bounds few fractional
  obtain ⟨places, digits⟩ := Nat.exists_eq_add_of_le (show (10 ^ decimals).log2 ≤ 52 by omega)
  have power : 2 ^ 52 = 2 ^ places * 2 ^ (10 ^ decimals).log2 := by rw [← Nat.pow_add, digits, Nat.add_comm]
  have multiple : 2 ^ places * 10 ^ decimals ≤ significand := by
    refine Nat.le_of_lt_succ (Nat.lt_of_mul_lt_mul_right (a := 2 ^ (bits + (10 ^ decimals).log2)) ?_)
    have least := Nat.mul_le_mul_right (2 ^ bits * 10 ^ decimals) normal
    have positive := Nat.two_pow_pos (bits + (10 ^ decimals).log2)
    rw [power] at least
    rw [Nat.pow_add] at lower positive ⊢
    rw [Nat.succ_mul]
    linarith
  have covered := Nat.mul_le_mul_right (2 ^ (bits + (10 ^ decimals).log2)) multiple
  refine le_trans (le_of_eq ?_) covered
  rw [Nat.pow_add, Nat.pow_add, power]
  ring

/-- Where a number of more than 52 bits and its ticks have the last digit of their significands at powers of two
as far apart as the power of ten is from one, the ticks are divided without error. -/
theorem toWord_remainder_of_lt {bits steps : Nat} (normal : 2 ^ 52 ≤ steps) (small : steps < 2 ^ 53)
    (finite : (nearest false (steps * 2 ^ bits * 10 ^ decimals : Nat)).isFinite = true)
    (below : steps * 2 ^ bits * 10 ^ decimals < 2 ^ (53 + (bits + (10 ^ decimals).log2))) :
    ((nearest false (steps * 2 ^ bits * 10 ^ decimals : Nat)).remainder decimals).toWord = 0 := by
  obtain ⟨above, _, _⟩ := power_bounds few fractional
  have divisor : 0 < 10 ^ decimals := Nat.pow_pos (by decide)
  have step : 0 < 2 ^ bits := Nat.two_pow_pos bits
  have positive := Nat.mul_pos step divisor
  have unit := Nat.mul_lt_mul_of_pos_left above step
  have least : 2 ^ (52 + (bits + (10 ^ decimals).log2)) ≤ steps * 2 ^ bits * 10 ^ decimals := by
    rw [Nat.pow_add, Nat.pow_add, Nat.mul_assoc]
    exact Nat.mul_le_mul normal unit.le
  obtain ⟨significand, near, lower, upper⟩ := exists_multiple_of_natCast least below finite
  obtain ⟨rank, _, quotient⟩ := exists_quotient_eq few near
  have reaches := least_ticks_le few fractional normal lower
  have fits : significand * 2 ^ (bits + (10 ^ decimals).log2) < 2 ^ (53 + bits) * 10 ^ decimals := by
    have most := Nat.mul_le_mul_right (2 ^ bits * 10 ^ decimals) (Nat.succ_le_of_lt small)
    rw [Nat.pow_add] at upper ⊢
    rw [Nat.pow_add]
    linarith
  obtain ⟨whole, divided, lowerQuotient, upperQuotient⟩ :=
    exists_quotient_multiple divisor reaches fits (by rw [quotient]; rfl)
  obtain rfl : steps = whole := by
    rw [Nat.pow_add] at lower upper lowerQuotient upperQuotient
    exact multiple_unique (by linarith) (by linarith) lowerQuotient upperQuotient
  exact toWord_remainder_eq_zero few near divided fun _ => near

/-- Ticks that are a power of two are got back from a lesser quotient: the multiples below them are closer. -/
theorem isNear_of_quotient_lt {bits whole : Nat}
    (less : whole * 2 ^ bits * 10 ^ decimals < 2 ^ (53 + (bits + (10 ^ decimals).log2)))
    (lower : 2 * 2 ^ (53 + (bits + (10 ^ decimals).log2)) ≤
      2 * (whole * (2 ^ bits * 10 ^ decimals)) + 2 ^ bits * 10 ^ decimals)
    (finite : (nearest false (whole * 2 ^ bits * 10 ^ decimals : Nat)).isFinite = true) :
    (nearest false (whole * 2 ^ bits * 10 ^ decimals : Nat)).IsNear
      (2 ^ (53 + (bits + (10 ^ decimals).log2)) : Nat) 0 := by
  have step : 0 < 2 ^ bits := Nat.two_pow_pos bits
  have total : 2 ^ (53 + (bits + (10 ^ decimals).log2)) = 2 ^ bits * 2 ^ (53 + (10 ^ decimals).log2) := by
    rw [← Nat.pow_add, Nat.add_left_comm]
  obtain ⟨excess, sum⟩ : ∃ excess, 2 ^ (53 + (10 ^ decimals).log2) = whole * 10 ^ decimals + excess := by
    refine Nat.exists_eq_add_of_le (Nat.le_of_mul_le_mul_left ?_ step)
    rw [← total]
    linarith
  have close : 2 * excess ≤ 10 ^ decimals := by
    refine Nat.le_of_mul_le_mul_left ?_ step
    rw [total, sum] at lower
    linarith
  have remainder : 2 ^ (53 + (10 ^ decimals).log2) % 10 ^ decimals = excess := by
    rw [sum, Nat.mul_add_mod', Nat.mod_eq_of_lt]
    have positive : 0 < 10 ^ decimals := Nat.pow_pos (by decide)
    omega
  have small := power_excess few fractional
  rw [remainder] at small
  have half := Nat.mul_lt_mul_of_pos_left (small close) step
  have unit : 2 ^ (bits + (10 ^ decimals).log2) = 2 ^ bits * 2 ^ (10 ^ decimals).log2 := Nat.pow_add ..
  have positive := Nat.mul_pos step (Nat.two_pow_pos (10 ^ decimals).log2)
  have product : 2 ^ bits * (whole * 10 ^ decimals + excess) =
      2 ^ 53 * (2 ^ bits * 2 ^ (10 ^ decimals).log2) := by
    rw [← sum, Nat.pow_add]
    ring
  have reached : 2 ^ (52 + (bits + (10 ^ decimals).log2)) ≤ whole * 2 ^ bits * 10 ^ decimals := by
    rw [Nat.pow_add, unit]
    linarith
  obtain ⟨significand, near, lowerProduct, upperProduct⟩ := exists_multiple_of_natCast reached less finite
  obtain rfl : 2 ^ 53 = significand := by
    rw [Nat.pow_add, unit] at less
    rw [unit] at lowerProduct upperProduct
    exact multiple_unique (by linarith) (by linarith) lowerProduct upperProduct
  rwa [Nat.pow_add]

/-- Ticks are got back from their quotient where this is rounded by less than half of what they are multiples of. -/
theorem isNear_of_quotient {bits whole significand : Nat} (normal : 2 ^ 52 ≤ significand)
    (lower : 2 * (significand * 2 ^ (bits + (10 ^ decimals).log2 + 1)) ≤
      2 * (whole * (2 ^ bits * 10 ^ decimals)) + 2 ^ bits * 10 ^ decimals)
    (upper : 2 * (whole * (2 ^ bits * 10 ^ decimals)) ≤
      2 * (significand * 2 ^ (bits + (10 ^ decimals).log2 + 1)) + 2 ^ bits * 10 ^ decimals)
    (fits : whole * 2 ^ bits * 10 ^ decimals < 2 ^ (53 + (bits + (10 ^ decimals).log2 + 1)))
    (finite : (nearest false (whole * 2 ^ bits * 10 ^ decimals : Nat)).isFinite = true) :
    (nearest false (whole * 2 ^ bits * 10 ^ decimals : Nat)).IsNear
      (significand * 2 ^ (bits + (10 ^ decimals).log2 + 1) : Nat) 0 := by
  obtain ⟨_, below, _⟩ := power_bounds few fractional
  have step : 0 < 2 ^ bits := Nat.two_pow_pos bits
  have unit := Nat.mul_lt_mul_of_pos_left below step
  have positive := Nat.mul_pos step (Nat.two_pow_pos (10 ^ decimals).log2)
  have coarse : 2 ^ (bits + (10 ^ decimals).log2 + 1) = 2 * (2 ^ bits * 2 ^ (10 ^ decimals).log2) := by
    rw [Nat.pow_succ', Nat.pow_add]
  have least : 2 ^ (53 + (bits + (10 ^ decimals).log2)) = 2 ^ 52 * 2 ^ (bits + (10 ^ decimals).log2 + 1) := by
    rw [← Nat.pow_add]
    congr 1
    omega
  rw [Nat.pow_succ'] at unit
  rcases Nat.lt_or_ge (whole * 2 ^ bits * 10 ^ decimals) (2 ^ (53 + (bits + (10 ^ decimals).log2)))
    with less | reached
  · obtain rfl : 2 ^ 52 = significand := by
      by_contra other
      have more : (2 ^ 52 + 1) * 2 ^ (bits + (10 ^ decimals).log2 + 1) ≤
        significand * 2 ^ (bits + (10 ^ decimals).log2 + 1) := Nat.mul_le_mul_right _ (normal.lt_of_ne other)
      rw [least] at less
      rw [coarse] at less lower more
      linarith
    rw [← least] at lower ⊢
    exact isNear_of_quotient_lt few fractional less lower finite
  · rw [least, ← Nat.pow_add] at reached
    obtain ⟨other, near, lowerProduct, upperProduct⟩ := exists_multiple_of_natCast reached fits finite
    obtain rfl : significand = other := by
      rw [coarse] at lower upper lowerProduct upperProduct
      exact multiple_unique (by linarith) (by linarith) lowerProduct upperProduct
    exact near

/-- Where the ticks' last digit stands for twice as much, their quotient may be another number. -/
theorem toWord_remainder_of_le {bits steps : Nat} (small : steps < 2 ^ 53)
    (finite : (nearest false (steps * 2 ^ bits * 10 ^ decimals : Nat)).isFinite = true)
    (reached : 2 ^ (53 + (bits + (10 ^ decimals).log2)) ≤ steps * 2 ^ bits * 10 ^ decimals) :
    ((nearest false (steps * 2 ^ bits * 10 ^ decimals : Nat)).remainder decimals).toWord = 0 := by
  obtain ⟨above, below, _⟩ := power_bounds few fractional
  have divisor : 0 < 10 ^ decimals := Nat.pow_pos (by decide)
  have step : 0 < 2 ^ bits := Nat.two_pow_pos bits
  have unit := Nat.mul_lt_mul_of_pos_left above step
  have most := Nat.mul_le_mul_right (2 ^ bits * 10 ^ decimals) (Nat.succ_le_of_lt small)
  have doubled := Nat.mul_le_mul_left (2 ^ bits) (Nat.succ_le_of_lt below)
  have coarse : 2 ^ (bits + (10 ^ decimals).log2 + 1) = 2 * (2 ^ bits * 2 ^ (10 ^ decimals).log2) := by
    rw [Nat.pow_succ', Nat.pow_add]
  have least : 2 ^ (52 + (bits + (10 ^ decimals).log2 + 1)) ≤ steps * 2 ^ bits * 10 ^ decimals := by
    exact le_trans (Nat.pow_le_pow_right two_pos (by omega)) reached
  have fits : steps * 2 ^ bits * 10 ^ decimals < 2 ^ (53 + (bits + (10 ^ decimals).log2 + 1)) := by
    rw [Nat.pow_add, coarse]
    rw [Nat.pow_succ'] at doubled
    linarith
  obtain ⟨significand, near, lower, upper⟩ := exists_multiple_of_natCast least fits finite
  have digits := le_significand_of_multiple (Nat.two_pow_pos _) (by rwa [Nat.pow_add] at least) lower
  obtain ⟨rank, _, quotient⟩ := exists_quotient_eq few near
  have quotientReached : 2 ^ (52 + bits) * 10 ^ decimals ≤
      significand * 2 ^ (bits + (10 ^ decimals).log2 + 1) := by
    refine le_trans ?_ (Nat.mul_le_mul_right _ digits)
    rw [Nat.pow_succ'] at doubled
    rw [Nat.pow_add, coarse]
    linarith
  have quotientFits : significand * 2 ^ (bits + (10 ^ decimals).log2 + 1) < 2 ^ (53 + bits) * 10 ^ decimals := by
    rw [coarse] at upper ⊢
    rw [Nat.pow_add]
    linarith
  obtain ⟨whole, divided, lowerQuotient, upperQuotient⟩ :=
    exists_quotient_multiple divisor quotientReached quotientFits (by rw [quotient]; rfl)
  refine toWord_remainder_eq_zero few near divided fun product =>
    isNear_of_quotient few fractional digits lowerQuotient upperQuotient ?_ product
  rw [Nat.pow_succ'] at doubled
  rw [coarse] at upper upperQuotient
  rw [Nat.pow_add, coarse]
  linarith

end Remainder

end Binary64

end CellFormat

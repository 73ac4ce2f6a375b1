import CellFormat.Proofs.RoundingError

/-!
Where a rounded magnitude lies. Its multiples of a power of two are settled by the magnitude itself, so that a
magnitude on one of them is not rounded, one within half a step of it is rounded to it, and a whole number is
rounded to a whole number. What is half a step past the largest number is the first to round to an infinity.
-/

namespace CellFormat

theorem le_roundHalfEven {q : Rat} (nonneg : 0 ≤ q) {n : Nat} (close : n < q + 1 / 2) : n ≤ roundHalfEven q := by
  have below := (abs_le.mp (roundHalfEven_error nonneg)).1
  have next : (n : Rat) < (roundHalfEven q + 1 : Nat) := by
    push_cast
    linarith
  exact Nat.le_of_lt_succ (by exact_mod_cast next)

theorem roundHalfEven_le_of_lt {q : Rat} (nonneg : 0 ≤ q) {n : Nat} (close : q < n + 1 / 2) :
    roundHalfEven q ≤ n := by
  have above := (abs_le.mp (roundHalfEven_error nonneg)).2
  have next : (roundHalfEven q : Rat) < (n + 1 : Nat) := by
    push_cast
    linarith
  exact Nat.le_of_lt_succ (by exact_mod_cast next)

/-- Of two whole numbers at the same distance the even one is taken. -/
theorem roundHalfEven_of_tie {n : Nat} (odd : n % 2 = 1) : roundHalfEven (n + 1 / 2) = n + 1 := by
  have whole : ((n : Rat) + 1 / 2).floor.toNat = n := by
    have lower := le_floor_toNat (show (n : Rat) ≤ n + 1 / 2 by linarith)
    have upper := floor_toNat_le (show (0 : Rat) ≤ n + 1 / 2 by positivity)
    have next : (((n : Rat) + 1 / 2).floor.toNat : Rat) < (n + 1 : Nat) := by
      push_cast
      linarith
    exact le_antisymm (Nat.le_of_lt_succ (by exact_mod_cast next)) lower
  have excess : (n : Rat) + 1 / 2 - n = 1 / 2 := add_sub_cancel_left _ _
  simp only [roundHalfEven, whole, excess, lt_irrefl, if_false, odd]

namespace Binary64

/-- Whether a number is a magnitude rounded to the multiples of a power of two: of that power which leaves the
magnitude a significand of 53 bits, or of the least one. -/
structure IsRounded (x : Binary64) (q : Rat) (exponent : Int) : Prop where
  positive : ∃ rank, x = finite false rank
  least : -1074 ≤ exponent
  upper : q < 2 ^ (53 + exponent)
  lower : exponent = -1074 ∨ 2 ^ (52 + exponent) ≤ q
  value : x.magnitude = roundHalfEven (q / 2 ^ exponent) * 2 ^ exponent

theorem isFinite_ofRank (negative : Bool) (rank : Nat) :
    (ofRank negative rank).isFinite = true ↔ rank < finiteCount := by
  unfold ofRank
  split
  · next within => exact iff_of_true rfl within
  · next outside => exact iff_of_false Bool.false_ne_true outside

theorem exists_isRounded {q : Rat} (nonneg : 0 ≤ q) (finite : (nearest false q).isFinite = true) :
    ∃ exponent, (nearest false q).IsRounded q exponent := by
  have positive := unitsPerOne_pos
  obtain ⟨units, rfl, unitsNonneg⟩ : ∃ units, q = units / unitsPerOne ∧ 0 ≤ units :=
    ⟨q * unitsPerOne, (mul_div_cancel_right₀ q positive.ne').symm, mul_nonneg nonneg positive.le⟩
  obtain ⟨places, found, upper, lower⟩ := significand_bounds unitsNonneg
  have quotient : 0 ≤ units / 2 ^ places := div_nonneg unitsNonneg (by positivity)
  have small : roundHalfEven (units / 2 ^ places) ≤ 2 ^ 53 := roundHalfEven_le quotient (by exact_mod_cast upper)
  have normal : places = 0 ∨ 2 ^ 52 ≤ roundHalfEven (units / 2 ^ places) :=
    lower.imp_right fun bound =>
      (le_floor_toNat (by exact_mod_cast bound)).trans (floor_le_roundHalfEven _)
  have value := rankUnits_significand small normal
  rw [nearest_div_unitsPerOne, ← found] at finite ⊢
  have within := (isFinite_ofRank _ _).mp finite
  have power : ∀ bits : Nat, (2 : Rat) ^ (bits + ((places : Int) - 1074)) = 2 ^ bits * 2 ^ places / unitsPerOne := by
    intro bits
    rw [zpow_add₀ two_ne_zero, zpow_sub₀ two_ne_zero, zpow_natCast, zpow_natCast, cast_unitsPerOne, mul_div_assoc]
    rfl
  have step := power 0
  rw [Nat.cast_zero, zero_add, pow_zero, one_mul] at step
  have scale : (0 : Rat) < 2 ^ places := by positivity
  refine ⟨(places : Int) - 1074, ⟨⟨_, within⟩, dif_pos within⟩, by omega, ?_, ?_, ?_⟩
  · have bound := power 53
    rw [Nat.cast_ofNat] at bound
    rw [bound, div_lt_div_iff_of_pos_right positive]
    exact (div_lt_iff₀ scale).mp upper
  · refine lower.imp (fun zero => by omega) fun bound => ?_
    have same := power 52
    rw [Nat.cast_ofNat] at same
    rw [same, div_le_div_iff_of_pos_right positive]
    exact (le_div_iff₀ scale).mp bound
  · rw [ofRank, dif_pos within, magnitude, value, step, div_div_div_cancel_right₀ positive.ne']
    push_cast
    exact mul_div_assoc ..

theorem IsRounded.exponent_eq {x : Binary64} {q : Rat} {exponent other : Int} (rounded : x.IsRounded q exponent)
    (least : -1074 ≤ other) (lower : 2 ^ (52 + other) ≤ q) (upper : q < 2 ^ (53 + other)) : exponent = other := by
  have above := (zpow_lt_zpow_iff_right₀ one_lt_two).mp (lower.trans_lt rounded.upper)
  have below : exponent ≤ other := by
    rcases rounded.lower with rfl | reached
    · exact least
    · have power := (zpow_lt_zpow_iff_right₀ one_lt_two).mp (reached.trans_lt upper)
      omega
  omega

/-- The significand of a magnitude keeps its 53 bits as it is rounded. -/
theorem le_significand {q : Rat} {exponent : Int} (normal : 2 ^ (52 + exponent) ≤ q) :
    2 ^ 52 ≤ roundHalfEven (q / 2 ^ exponent) := by
  have step : (0 : Rat) < 2 ^ exponent := zpow_pos two_pos exponent
  rw [zpow_add₀ two_ne_zero] at normal
  have quotient : ((2 ^ 52 : Nat) : Rat) ≤ q / 2 ^ exponent := by
    rw [le_div_iff₀ step]
    exact_mod_cast normal
  exact (le_floor_toNat quotient).trans (floor_le_roundHalfEven _)

/-- A magnitude less than half a step below a whole number of 53 bits, or above it, is not rounded to one below. -/
theorem natCast_le_nearest {q : Rat} (finite : (nearest false q).isFinite = true) {n bits : Nat}
    (small : n ≤ 2 ^ 53) (power : 2 ^ bits ≤ q) (close : n < q + 2 ^ bits / 2 ^ 53) :
    n ≤ (nearest false q).magnitude := by
  have nonneg : 0 ≤ q := le_trans (by positivity) power
  obtain ⟨exponent, rounded⟩ := exists_isRounded nonneg finite
  have step : (0 : Rat) < 2 ^ exponent := zpow_pos two_pos exponent
  rw [rounded.value]
  rcases le_or_gt exponent 0 with fine | coarse
  · obtain ⟨places, rfl⟩ := Int.exists_eq_neg_ofNat fine
    have scaled : (n : Rat) = (n * 2 ^ places : Nat) * 2 ^ (-(places : Int)) := by
      push_cast
      rw [zpow_neg, zpow_natCast, mul_assoc, mul_inv_cancel₀ (pow_ne_zero places two_ne_zero), mul_one]
    have order : (bits : Int) < 53 + -places :=
      (zpow_lt_zpow_iff_right₀ one_lt_two).mp (lt_of_le_of_lt (by exact_mod_cast power) rounded.upper)
    have half : (2 : Rat) ^ bits / 2 ^ 53 ≤ 1 / 2 * 2 ^ (-(places : Int)) :=
      calc (2 : Rat) ^ bits / 2 ^ 53 = 2 ^ ((bits : Int) - 53) := by
            rw [zpow_sub₀ two_ne_zero, zpow_natCast]
            rfl
        _ ≤ 2 ^ (-(places : Int) - 1) := zpow_le_zpow_right₀ one_le_two (by omega)
        _ = 1 / 2 * 2 ^ (-(places : Int)) := by
            rw [zpow_sub_one₀ two_ne_zero]
            ring
    have least : n * 2 ^ places ≤ roundHalfEven (q / 2 ^ (-(places : Int))) := by
      refine le_roundHalfEven (div_nonneg nonneg step.le) ?_
      rw [← mul_lt_mul_iff_left₀ step, add_mul, div_mul_cancel₀ _ step.ne', ← scaled]
      linarith
    rw [scaled]
    exact mul_le_mul_of_nonneg_right (by exact_mod_cast least) step.le
  · have significand := le_significand (rounded.lower.resolve_left (by omega))
    have doubled : (2 : Rat) ^ (1 : Int) ≤ 2 ^ exponent := zpow_le_zpow_right₀ one_le_two (by omega)
    calc (n : Rat) ≤ (2 ^ 52 : Nat) * 2 ^ (1 : Int) := by exact_mod_cast small
      _ ≤ roundHalfEven (q / 2 ^ exponent) * 2 ^ exponent :=
        mul_le_mul (by exact_mod_cast significand) doubled (by positivity) (Nat.cast_nonneg _)

/-- A sum is not rounded past a whole number that is one of its terms. -/
theorem IsNear.natCast_le_add {x y : Binary64} {n : Nat} {q error : Rat} (left : x.IsNear n 0)
    (right : y.IsNear q error) (small : n ≤ 2 ^ 53) (finite : (x + y).isFinite = true) :
    n ≤ (x + y).magnitude := by
  by_cases zero : n = 0
  · rw [zero, Nat.cast_zero]
    exact magnitude_nonneg _
  have least : (1 : Rat) ≤ n := by exact_mod_cast Nat.one_le_iff_ne_zero.mpr zero
  have more := magnitude_nonneg y
  have power : (2 : Rat) ^ 0 ≤ n + y.magnitude := by
    rw [pow_zero]
    linarith
  have positive : (0 : Rat) < 2 ^ 0 / 2 ^ 53 := by positivity
  rw [left.add_eq right, left.magnitude_eq] at finite ⊢
  exact natCast_le_nearest finite small power (by linarith)

/-- A magnitude of more than 52 bits is rounded to a multiple of a power of two, by half of that power at most. -/
theorem exists_multiple_of_bounds {q : Rat} {bits : Nat} (lower : 2 ^ (52 + bits) ≤ q) (upper : q < 2 ^ (53 + bits))
    (finite : (nearest false q).isFinite = true) : ∃ significand : Nat,
    (nearest false q).IsNear (significand * 2 ^ bits : Nat) 0 ∧
    2 * q ≤ 2 * (significand * 2 ^ bits) + 2 ^ bits ∧ 2 * (significand * 2 ^ bits) ≤ 2 * q + 2 ^ bits := by
  have nonneg : 0 ≤ q := le_trans (by positivity) lower
  obtain ⟨exponent, rounded⟩ := exists_isRounded nonneg finite
  obtain rfl : exponent = bits :=
    rounded.exponent_eq (by omega) (by exact_mod_cast lower) (by exact_mod_cast upper)
  have value := rounded.value
  obtain ⟨rank, found⟩ := rounded.positive
  rw [zpow_natCast] at value
  have step : (0 : Rat) < 2 ^ bits := by positivity
  have error := abs_le.mp (roundHalfEven_error (div_nonneg nonneg step.le))
  generalize roundHalfEven (q / 2 ^ bits) = significand at *
  have below := mul_le_mul_of_nonneg_right error.1 step.le
  have above := mul_le_mul_of_nonneg_right error.2 step.le
  rw [sub_mul, div_mul_cancel₀ _ step.ne'] at below above
  refine ⟨significand, ⟨rank, found, ?_⟩, by linarith, by linarith⟩
  rw [value]
  simp

theorem exists_multiple_of_natCast {n bits : Nat} (lower : 2 ^ (52 + bits) ≤ n) (upper : n < 2 ^ (53 + bits))
    (finite : (nearest false n).isFinite = true) : ∃ significand,
    (nearest false n).IsNear (significand * 2 ^ bits : Nat) 0 ∧
    2 * n ≤ 2 * (significand * 2 ^ bits) + 2 ^ bits ∧ 2 * (significand * 2 ^ bits) ≤ 2 * n + 2 ^ bits := by
  obtain ⟨significand, near, below, above⟩ :=
    exists_multiple_of_bounds (by exact_mod_cast lower) (by exact_mod_cast upper) finite
  exact ⟨significand, near, by exact_mod_cast below, by exact_mod_cast above⟩

/-- A whole number is rounded to a multiple of a power of two, by half of that power at most; and the power is one
unless the number is too large for a significand. -/
theorem exists_multiple {n : Nat} (finite : (nearest false n).isFinite = true) : ∃ bits significand : Nat,
    (nearest false n).IsNear (significand * 2 ^ bits : Nat) 0 ∧ n < 2 ^ (53 + bits) ∧
    (bits = 0 ∨ 2 ^ (52 + bits) ≤ n) ∧ 2 * n ≤ 2 * (significand * 2 ^ bits) + 2 ^ bits ∧
    2 * (significand * 2 ^ bits) ≤ 2 * n + 2 ^ bits := by
  by_cases small : n < 2 ^ 53
  · exact ⟨0, n, by simpa using isNear_natCast small, small, .inl rfl, by omega, by omega⟩
  have nonzero : n ≠ 0 := by omega
  have log : 53 ≤ n.log2 := (Nat.le_log2 nonzero).mpr (Nat.le_of_not_lt small)
  obtain ⟨bits, exponent⟩ := Nat.exists_eq_add_of_le (show 52 ≤ n.log2 by omega)
  obtain ⟨lower, upper⟩ := (Nat.log2_eq_iff nonzero).mp exponent
  rw [show 52 + bits + 1 = 53 + bits by omega] at upper
  obtain ⟨significand, near, error⟩ := exists_multiple_of_natCast lower upper finite
  exact ⟨bits, significand, near, upper, .inr lower, error⟩

/-- A quotient of more than 52 bits, in parts of the divisor. -/
theorem exists_quotient_multiple {n divisor bits : Nat} (positive : 0 < divisor)
    (lower : 2 ^ (52 + bits) * divisor ≤ n) (upper : n < 2 ^ (53 + bits) * divisor)
    (finite : (nearest false ((n : Rat) / divisor)).isFinite = true) : ∃ significand,
    (nearest false ((n : Rat) / divisor)).IsNear (significand * 2 ^ bits : Nat) 0 ∧
    2 * n ≤ 2 * (significand * (2 ^ bits * divisor)) + 2 ^ bits * divisor ∧
    2 * (significand * (2 ^ bits * divisor)) ≤ 2 * n + 2 ^ bits * divisor := by
  have scale : (0 : Rat) < divisor := by exact_mod_cast positive
  obtain ⟨significand, near, below, above⟩ := @exists_multiple_of_bounds _ bits
    ((le_div_iff₀ scale).mpr (by exact_mod_cast lower)) ((div_lt_iff₀ scale).mpr (by exact_mod_cast upper)) finite
  have belowTicks := mul_le_mul_of_nonneg_right below scale.le
  have aboveTicks := mul_le_mul_of_nonneg_right above scale.le
  rw [add_mul, mul_assoc 2, mul_assoc 2, div_mul_cancel₀ _ scale.ne', mul_assoc] at belowTicks aboveTicks
  exact ⟨significand, near, by exact_mod_cast belowTicks, by exact_mod_cast aboveTicks⟩

/-- The least magnitude that is rounded to an infinity: half a step past the largest number. -/
def overflow : Rat := 2 ^ 1024 - 2 ^ 970

theorem overflow_mul_unitsPerOne : overflow * unitsPerOne = (2 ^ 53 - 1 / 2) * 2 ^ 2045 := by
  have largest : (2 : Rat) ^ 1024 = 2 ^ 54 * 2 ^ 970 := pow_add 2 54 970
  have places : (2 : Rat) ^ 2045 = 2 * 2 ^ 970 * 2 ^ 1074 := by rw [← pow_succ', ← pow_add]
  rw [overflow, cast_unitsPerOne, largest, places]
  generalize (2 : Rat) ^ 970 = step, (2 : Rat) ^ 1074 = scale
  ring

/-- The last significand is odd, so that half a step past it is rounded up, out of the range. -/
theorem isFinite_nearest_iff {q : Rat} (nonneg : 0 ≤ q) (negative : Bool) :
    (nearest negative q).isFinite = true ↔ q < overflow := by
  have positive := unitsPerOne_pos
  obtain ⟨units, rfl, unitsNonneg⟩ : ∃ units, q = units / unitsPerOne ∧ 0 ≤ units :=
    ⟨q * unitsPerOne, (mul_div_cancel_right₀ q positive.ne').symm, mul_nonneg nonneg positive.le⟩
  obtain ⟨places, found, upper, lower⟩ := significand_bounds unitsNonneg
  have nonneg : 0 ≤ units / 2 ^ places := div_nonneg unitsNonneg (by positivity)
  have perDoubling : placesPerDoubling = 2 ^ 52 := rfl
  have count : finiteCount = 2047 * placesPerDoubling := rfl
  have scale : (0 : Rat) < 2 ^ 2045 := by positivity
  rw [nearest_div_unitsPerOne, ← found, isFinite_ofRank, div_lt_iff₀ positive, overflow_mul_unitsPerOne]
  rcases lt_trichotomy places 2045 with less | rfl | more
  · have digits := roundHalfEven_le nonneg (n := 2 ^ 53) (by exact_mod_cast upper)
    have step := Nat.mul_le_mul_right placesPerDoubling (Nat.le_of_lt_succ less)
    refine iff_of_true (by omega) ?_
    have doubled : (2 : Rat) * 2 ^ places ≤ 2 ^ 2045 := by
      rw [← pow_succ']
      exact pow_le_pow_right₀ one_le_two less
    rw [div_lt_iff₀ (by positivity)] at upper
    generalize (2 : Rat) ^ 2045 = top, (2 : Rat) ^ places = step at *
    linarith
  · rw [← div_lt_iff₀ scale]
    generalize units / 2 ^ 2045 = quotient at *
    have rounds : roundHalfEven quotient < 2 ^ 53 ↔ quotient < 2 ^ 53 - 1 / 2 := by
      have odd : ((2 ^ 53 - 1 : Nat) : Rat) = 2 ^ 53 - 1 := by norm_num
      rcases lt_trichotomy quotient (2 ^ 53 - 1 / 2) with below | rfl | above
      · have digits := roundHalfEven_le_of_lt (n := 2 ^ 53 - 1) nonneg (by rw [odd]; linarith)
        exact iff_of_true (by omega) below
      · have tie := roundHalfEven_of_tie (n := 2 ^ 53 - 1) (by norm_num)
        rw [odd, show (2 : Rat) ^ 53 - 1 + 1 / 2 = 2 ^ 53 - 1 / 2 by ring] at tie
        exact iff_of_false (by omega) (lt_irrefl _)
      · have digits := le_roundHalfEven (n := 2 ^ 53) nonneg (by push_cast; linarith)
        exact iff_of_false (by omega) (not_lt.mpr above.le)
    rw [← rounds]
    omega
  · have digits := (le_floor_toNat (n := 2 ^ 52) (by exact_mod_cast lower.resolve_left (by omega))).trans
      (floor_le_roundHalfEven (units / 2 ^ places))
    have step := Nat.mul_le_mul_right placesPerDoubling (Nat.succ_le_of_lt more)
    refine iff_of_false (by omega) (not_lt.mpr ?_)
    have doubled : (2 : Rat) * 2 ^ 2045 ≤ 2 ^ places := by
      rw [← pow_succ']
      exact pow_le_pow_right₀ one_le_two more
    have reached := (le_div_iff₀ (by positivity)).mp (lower.resolve_left (by omega))
    generalize (2 : Rat) ^ 2045 = top, (2 : Rat) ^ places = step at *
    linarith

theorem nearest_eq_infinite {negative : Bool} {q : Rat} (endless : ¬(nearest negative q).isFinite = true) :
    nearest negative q = infinite negative := by
  rw [nearest, isFinite_ofRank] at endless
  exact ofRank_of_le (Nat.le_of_not_lt endless) negative

theorem exists_nearest_eq {q : Rat} (nonneg : 0 ≤ q) (below : q < overflow) :
    ∃ rank, nearest false q = finite false rank :=
  (exists_isRounded nonneg ((isFinite_nearest_iff nonneg false).mpr below)).choose_spec.positive

theorem isNear_self (rank : Fin finiteCount) : (finite false rank).IsNear (finite false rank).magnitude 0 :=
  ⟨rank, rfl, by rw [sub_self, abs_zero]⟩

theorem nearest_eq_or (q : Rat) : (∃ rank, nearest false q = finite false rank) ∨ nearest false q = infinite false := by
  by_cases within : (nearest false q).isFinite = true
  · rw [nearest, isFinite_ofRank] at within
    exact .inl ⟨⟨_, within⟩, dif_pos within⟩
  · exact .inr (nearest_eq_infinite within)

theorem magnitude_lt_overflow (negative : Bool) (rank : Fin finiteCount) :
    (finite negative rank).magnitude < overflow := by
  refine (isFinite_nearest_iff (magnitude_nonneg _) negative).mp ?_
  rw [nearest_magnitude]
  rfl

theorem IsNear.magnitude_lt_overflow {x : Binary64} {q error : Rat} (near : x.IsNear q error) :
    x.magnitude < overflow := by
  obtain ⟨rank, rfl, _⟩ := near
  exact Binary64.magnitude_lt_overflow false rank

/-- A number of more than 52 bits is a whole one, and a multiple of a power of two with a significand of 53 bits. -/
theorem exists_steps {rank : Fin finiteCount} (large : 2 ^ 52 ≤ (finite false rank).magnitude) :
    ∃ bits steps, (finite false rank).IsNear (steps * 2 ^ bits : Nat) 0 ∧ 2 ^ 52 ≤ steps ∧ steps < 2 ^ 53 := by
  obtain ⟨steps, exponent, small, normal, units, _⟩ := exists_significand rank
  have value : (finite false rank).magnitude * 2 ^ 1074 = steps * 2 ^ exponent := by
    rw [magnitude, units, cast_unitsPerOne, div_mul_cancel₀ _ (pow_ne_zero _ two_ne_zero)]
    push_cast
    rfl
  have scale : (0 : Rat) < 2 ^ 1074 := by positivity
  have reached : 1074 ≤ exponent := by
    by_contra early
    have doubled : (2 : Rat) * 2 ^ exponent ≤ 2 ^ 1074 := by
      rw [← pow_succ']
      exact pow_le_pow_right₀ one_le_two (Nat.lt_of_not_le early)
    have lower := mul_le_mul_of_nonneg_right large scale.le
    have digits : (steps : Rat) < 2 ^ 53 := by exact_mod_cast small
    have upper := mul_lt_mul_of_pos_right digits (show (0 : Rat) < 2 ^ exponent by positivity)
    rw [value] at lower
    generalize (2 : Rat) ^ 1074 = top, (2 : Rat) ^ exponent = step at *
    linarith
  obtain ⟨bits, rfl⟩ := Nat.exists_eq_add_of_le' reached
  refine ⟨bits, steps, ⟨rank, rfl, ?_⟩, normal.resolve_left (by omega), small⟩
  have exact : (finite false rank).magnitude = (steps * 2 ^ bits : Nat) := by
    refine mul_right_cancel₀ scale.ne' (value.trans ?_)
    push_cast
    rw [pow_add, mul_assoc]
  rw [exact, sub_self, abs_zero]

theorem IsNear.truncate_eq {x : Binary64} {n : Nat} (near : x.IsNear n 0) : x.truncate = x := by
  have value := near.magnitude_eq
  obtain ⟨rank, rfl, _⟩ := near
  have whole : (n : Rat).floor = n := Rat.floor_intCast n
  rw [truncate, value, whole, Int.toNat_natCast, ← value, nearest_magnitude]

theorem wholeMagnitude_lt_iff (x : Binary64) (n : Nat) : x.wholeMagnitude < n ↔ x.magnitude < n := by
  have lower := floor_toNat_le x.magnitude_nonneg
  have upper := lt_floor_toNat_add_one x.magnitude
  rw [wholeMagnitude]
  constructor
  · intro below
    have next : ((x.magnitude.floor.toNat + 1 : Nat) : Rat) ≤ n := by exact_mod_cast below
    push_cast at next
    linarith
  · intro below
    exact_mod_cast lower.trans_lt below

/-- Nothing of the whole part is lost as a number is cut off: past 53 bits it has no fraction. -/
theorem isNear_truncate (rank : Fin finiteCount) :
    (finite false rank).truncate.IsNear (finite false rank).wholeMagnitude 0 := by
  rcases lt_or_ge (finite false rank).magnitude (2 ^ 52) with small | large
  · have whole : (finite false rank).wholeMagnitude < 2 ^ 52 := by
      rw [wholeMagnitude_lt_iff]
      exact_mod_cast small
    exact isNear_natCast (whole.trans (by decide))
  · obtain ⟨bits, steps, near, _⟩ := exists_steps large
    rwa [near.truncate_eq, near.wholeMagnitude_natCast]

end Binary64

end CellFormat

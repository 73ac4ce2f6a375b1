import CellFormat.Binary64.Arithmetic
import CellFormat.Proofs.Rounding
import Mathlib.Algebra.Order.Field.Basic
import Mathlib.Tactic.GCongr
import Mathlib.Tactic.Ring

/-!
How far a rounded magnitude is from the exact one, and from this how far the result of an operation is from
the exact result on what the operands stand for. Whole numbers of 53 bits are not rounded at all.
-/

namespace CellFormat

theorem lt_floor_toNat_add_one (q : Rat) : q < q.floor.toNat + 1 := by
  have next : q < ((q.floor + 1 : Int) : Rat) := Rat.lt_floor_add_one q
  have whole : q.floor + 1 ≤ (q.floor.toNat + 1 : Nat) := by omega
  exact lt_of_lt_of_le next (by exact_mod_cast whole)

theorem roundHalfEven_error {q : Rat} (nonneg : 0 ≤ q) : |(roundHalfEven q : Rat) - q| ≤ 1 / 2 := by
  have lower := floor_toNat_le nonneg
  have upper := lt_floor_toNat_add_one q
  unfold roundHalfEven
  dsimp only
  generalize q.floor.toNat = below at *
  rw [abs_le]
  split
  · constructor <;> linarith
  · split
    · push_cast
      constructor <;> linarith
    · have least : (0 : Rat) ≤ (below % 2 : Nat) := Nat.cast_nonneg _
      have most : ((below % 2 : Nat) : Rat) ≤ 1 := by exact_mod_cast Nat.le_of_lt_succ (Nat.mod_lt below two_pos)
      push_cast at least most ⊢
      constructor <;> linarith

theorem roundHalfEven_le {q : Rat} (nonneg : 0 ≤ q) {n : Nat} (bound : q < n) : roundHalfEven q ≤ n := by
  have above := (abs_le.mp (roundHalfEven_error nonneg)).2
  have next : (roundHalfEven q : Rat) < (n + 1 : Nat) := by
    push_cast
    linarith
  exact Nat.le_of_lt_succ (by exact_mod_cast next)

/-- A significand of 53 bits may also be the power of two next above, where rounding carries. -/
theorem rankUnits_significand {significand exponent : Nat} (small : significand ≤ 2 ^ 53)
    (normal : exponent = 0 ∨ 2 ^ 52 ≤ significand) :
    rankUnits (exponent * placesPerDoubling + significand) = significand * 2 ^ exponent := by
  have places : placesPerDoubling = 2 ^ 52 := rfl
  have positive : 0 < placesPerDoubling := Nat.two_pow_pos 52
  unfold rankUnits
  by_cases first : significand < placesPerDoubling
  · have least : exponent = 0 := by omega
    rw [least, Nat.zero_mul, Nat.zero_add, if_pos first, pow_zero, Nat.mul_one]
  obtain ⟨rest, rfl⟩ := Nat.exists_eq_add_of_le (Nat.le_of_not_lt first)
  have place : exponent * placesPerDoubling + (placesPerDoubling + rest) =
      rest + placesPerDoubling * (exponent + 1) := by ring
  rw [if_neg (by omega), place, Nat.add_mul_mod_self_left, Nat.add_mul_div_left _ _ positive, ← Nat.add_assoc,
    Nat.add_sub_cancel, Nat.pow_eq]
  by_cases carried : rest < placesPerDoubling
  · rw [Nat.mod_eq_of_lt carried, Nat.div_eq_of_lt carried, Nat.zero_add]
  · have power : rest = placesPerDoubling := by omega
    rw [power, Nat.mod_self, Nat.div_self positive, pow_add]
    ring

theorem rankUnits_zero : rankUnits 0 = 0 := rfl

theorem rankUnits_pos {rank : Nat} (positive : 0 < rank) : 0 < rankUnits rank := by
  obtain ⟨significand, exponent, _, normal, units, place⟩ := exists_significand rank
  have digits : significand ≠ 0 := by
    rintro rfl
    have least : exponent = 0 := by omega
    rw [least, Nat.zero_mul] at place
    omega
  rw [units]
  exact Nat.mul_pos (Nat.pos_of_ne_zero digits) (Nat.two_pow_pos exponent)

/-- The significand before it is rounded, with the exponent that rounding finds. -/
theorem significand_bounds {units : Rat} (nonneg : 0 ≤ units) : ∃ exponent,
    exponent = units.floor.toNat.log2 - 52 ∧ units / 2 ^ exponent < 2 ^ 53 ∧
    (exponent = 0 ∨ 2 ^ 52 ≤ units / 2 ^ exponent) := by
  refine ⟨_, rfl, ?_, ?_⟩
  · rw [div_lt_iff₀ (by positivity), ← pow_add]
    have power : units.floor.toNat + 1 ≤ 2 ^ (units.floor.toNat.log2 + 1) := Nat.lt_log2_self
    have bound : units < 2 ^ (units.floor.toNat.log2 + 1) :=
      lt_of_lt_of_le (lt_floor_toNat_add_one units) (by exact_mod_cast power)
    exact lt_of_lt_of_le bound (pow_le_pow_right₀ one_le_two (by omega))
  · rw [or_iff_not_imp_left]
    intro later
    have nonzero : units.floor.toNat ≠ 0 := by
      intro zero
      simp [zero] at later
    have power : (2 : Rat) ^ units.floor.toNat.log2 ≤ units.floor.toNat := by
      exact_mod_cast Nat.log2_self_le nonzero
    rw [le_div_iff₀ (by positivity), ← pow_add]
    exact (pow_le_pow_right₀ one_le_two (by omega)).trans (power.trans (floor_toNat_le nonneg))

theorem log2_floor_lt {units : Rat} (nonneg : 0 ≤ units) {bits : Nat} (positive : 0 < bits)
    (small : units < 2 ^ bits) : units.floor.toNat.log2 < bits := by
  by_cases zero : units.floor.toNat = 0
  · rwa [zero, Nat.log2_zero]
  · exact (Nat.log2_lt zero).mpr (by exact_mod_cast lt_of_le_of_lt (floor_toNat_le nonneg) small)

namespace Binary64

/-- Whether a number is finite, not below zero and within an error of a magnitude. -/
def IsNear (x : Binary64) (q error : Rat) : Prop :=
  ∃ rank, x = finite false rank ∧ |x.magnitude - q| ≤ error

theorem isNear_nearest {q : Rat} {bits : Nat} (nonneg : 0 ≤ q) (small : q < 2 ^ bits) (range : bits ≤ 1023) :
    (nearest false q).IsNear q (2 ^ bits / 2 ^ 54) := by
  have positive := unitsPerOne_pos
  obtain ⟨units, rfl, unitsNonneg⟩ : ∃ units, q = units / unitsPerOne ∧ 0 ≤ units :=
    ⟨q * unitsPerOne, (mul_div_cancel_right₀ q positive.ne').symm, mul_nonneg nonneg positive.le⟩
  obtain ⟨exponent, found, upper, lower⟩ := significand_bounds unitsNonneg
  have reached : exponent ≤ bits + 1021 := by
    rw [div_lt_iff₀ positive, cast_unitsPerOne, ← pow_add] at small
    have log := log2_floor_lt unitsNonneg (by omega) small
    omega
  have quotient : 0 ≤ units / 2 ^ exponent := div_nonneg unitsNonneg (by positivity)
  have error := roundHalfEven_error quotient
  have significand : roundHalfEven (units / 2 ^ exponent) ≤ 2 ^ 53 :=
    roundHalfEven_le quotient (by exact_mod_cast upper)
  have normal : exponent = 0 ∨ 2 ^ 52 ≤ roundHalfEven (units / 2 ^ exponent) :=
    lower.imp_right fun bound =>
      (le_floor_toNat (by exact_mod_cast bound)).trans (floor_le_roundHalfEven _)
  have value := rankUnits_significand significand normal
  have within : exponent * placesPerDoubling + roundHalfEven (units / 2 ^ exponent) < finiteCount := by
    have places : placesPerDoubling = 2 ^ 52 := rfl
    have step := Nat.mul_le_mul_right placesPerDoubling (show exponent ≤ 2044 by omega)
    unfold finiteCount
    omega
  rw [nearest_div_unitsPerOne, ← found]
  generalize roundHalfEven (units / 2 ^ exponent) = digits at *
  refine ⟨⟨_, within⟩, dif_pos within, ?_⟩
  rw [ofRank, dif_pos within, magnitude, value, ← sub_div, abs_div, abs_of_pos positive, div_le_iff₀ positive]
  have scaled : ((digits * 2 ^ exponent : Nat) : Rat) - units =
      (digits - units / 2 ^ exponent) * 2 ^ exponent := by
    push_cast
    field_simp
  have power : (0 : Rat) < 2 ^ exponent := by positivity
  rw [scaled, abs_mul, abs_of_pos power]
  have inUnits : (unitsPerOne : Rat) = 2 ^ 1020 * 2 ^ 54 := by rw [cast_unitsPerOne, ← pow_add]
  calc |(digits : Rat) - units / 2 ^ exponent| * 2 ^ exponent ≤ 1 / 2 * 2 ^ exponent := by gcongr
    _ ≤ 1 / 2 * 2 ^ (bits + 1020 + 1) :=
      mul_le_mul_of_nonneg_left (pow_le_pow_right₀ one_le_two reached) one_half_pos.le
    _ = 2 ^ bits / 2 ^ 54 * unitsPerOne := by
      rw [inUnits, pow_succ, pow_add]
      generalize (2 : Rat) ^ 1020 = scale
      ring

theorem magnitude_nonneg (x : Binary64) : 0 ≤ x.magnitude := by
  cases x with
  | nan | infinite => exact le_rfl
  | finite negative rank => exact div_nonneg (Nat.cast_nonneg _) (Nat.cast_nonneg _)

theorem magnitude_pos_iff (negative : Bool) (rank : Fin finiteCount) :
    0 < (finite negative rank).magnitude ↔ 0 < rank.val := by
  constructor
  · intro positive
    refine Nat.pos_of_ne_zero fun zero => positive.ne' ?_
    rw [magnitude, zero, rankUnits_zero, Nat.cast_zero, zero_div]
  · intro positive
    have units : (0 : Rat) < rankUnits rank := by exact_mod_cast rankUnits_pos positive
    exact div_pos units unitsPerOne_pos

theorem lt_zero_iff {x : Binary64} (finite : x.isFinite = true) : x.lt .zero = true ↔ x.toRat < 0 := by
  cases x with
  | nan | infinite => cases finite
  | finite negative rank =>
    have place : zero.place? = some 0 := rfl
    have positive := magnitude_pos_iff negative rank
    have nonneg := magnitude_nonneg (.finite negative rank)
    rw [lt, place]
    cases negative with
    | false =>
      have never : ¬((rank.val : Int) < 0) := by omega
      simpa [place?, toRat, isNegative, never] using nonneg
    | true => simpa [place?, toRat, isNegative] using positive.symm

/-- A whole number of 53 bits is the number nearest to it. -/
theorem isNear_natCast {n : Nat} (small : n < 2 ^ 53) : (nearest false n).IsNear n 0 := by
  have places : placesPerDoubling = 2 ^ 52 := rfl
  obtain ⟨significand, exponent, digits, normal, range, units⟩ : ∃ significand exponent, significand < 2 ^ 53 ∧
      (exponent = 0 ∨ 2 ^ 52 ≤ significand) ∧ exponent ≤ 1074 ∧ n * 2 ^ 1074 = significand * 2 ^ exponent := by
    by_cases zero : n = 0
    · exact ⟨0, 0, Nat.two_pow_pos 53, .inl rfl, Nat.zero_le _, by rw [zero, Nat.zero_mul, Nat.zero_mul]⟩
    have log : n.log2 < 53 := (Nat.log2_lt zero).mpr small
    refine ⟨n * 2 ^ (52 - n.log2), 1022 + n.log2, ?_, .inr ?_, by omega, ?_⟩
    · have upper := Nat.mul_lt_mul_of_pos_right (@Nat.lt_log2_self n) (Nat.two_pow_pos (52 - n.log2))
      rwa [← Nat.pow_add, show n.log2 + 1 + (52 - n.log2) = 53 by omega] at upper
    · have lower := Nat.mul_le_mul_right (2 ^ (52 - n.log2)) (Nat.log2_self_le zero)
      rwa [← Nat.pow_add, show n.log2 + (52 - n.log2) = 52 by omega] at lower
    · rw [Nat.mul_assoc, ← Nat.pow_add, show 52 - n.log2 + (1022 + n.log2) = 1074 by omega]
  have within : exponent * placesPerDoubling + significand < finiteCount := by
    have step := Nat.mul_le_mul_right placesPerDoubling range
    unfold finiteCount
    omega
  have value : (n : Rat) = ((significand * 2 ^ exponent : Nat) : Rat) / unitsPerOne := by
    rw [← units, eq_div_iff unitsPerOne_pos.ne', cast_unitsPerOne, Nat.cast_mul, Nat.cast_pow, Nat.cast_ofNat]
  rw [value, nearest_units false digits normal, ofRank, dif_pos within]
  refine ⟨_, rfl, ?_⟩
  rw [magnitude, rankUnits_significand digits.le normal, sub_self, abs_zero]

theorem isNear_ofNat {n : Nat} (small : n < 2 ^ 53) : (ofNat n).IsNear n 0 := isNear_natCast small

/-- The magnitude of a number that is a whole one. -/
theorem isNear_abs {x : Binary64} (finite : x.isFinite = true) {n : Int} (whole : x.toRat = n) :
    x.abs.IsNear n.natAbs 0 := by
  cases x with
  | nan | infinite => cases finite
  | finite negative rank =>
    have nonneg := magnitude_nonneg (.finite negative rank)
    have magnitude : (CellFormat.Binary64.finite negative rank).magnitude = n.natAbs := by
      rw [Nat.cast_natAbs, Int.cast_abs, ← whole, toRat]
      split
      · rw [abs_neg, abs_of_nonneg nonneg]
      · rw [abs_of_nonneg nonneg]
    refine ⟨rank, rfl, abs_nonpos_iff.mpr (sub_eq_zero.mpr ?_)⟩
    exact magnitude

theorem toWord_natCast {n : Nat} (small : n < 2 ^ 53) : (nearest false n).toWord = n := by
  obtain ⟨rank, found, near⟩ := isNear_natCast small
  have exact : (nearest false n).magnitude = n := sub_eq_zero.mp (abs_nonpos_iff.mp near)
  have floor : (n : Rat).floor = n := Rat.floor_intCast n
  rw [found] at exact ⊢
  have word : n ≤ largestWord := small.le.trans (by decide)
  rw [toWord, if_neg Bool.false_ne_true, wholeMagnitude, exact, floor, Int.toNat_natCast, Nat.min_eq_left word]

namespace IsNear

variable {x y : Binary64} {p q a b : Rat}

theorem magnitude_eq (near : x.IsNear q 0) : x.magnitude = q := by
  obtain ⟨_, _, bound⟩ := near
  exact sub_eq_zero.mp (abs_nonpos_iff.mp bound)

/-- A rounded result is as near to what is meant as the exact one, but for the rounding. -/
theorem of_exact {exact : Rat} (rounded : x.IsNear exact b) (near : |exact - q| ≤ a) : x.IsNear q (a + b) := by
  obtain ⟨rank, found, bound⟩ := rounded
  refine ⟨rank, found, ?_⟩
  rw [abs_le] at *
  constructor <;> linarith

theorem add_eq (left : x.IsNear p a) (right : y.IsNear q b) :
    x + y = nearest false (x.magnitude + y.magnitude) := by
  obtain ⟨rank, rfl, _⟩ := left
  obtain ⟨other, rfl, _⟩ := right
  have nonneg := add_nonneg (magnitude_nonneg (finite false rank)) (magnitude_nonneg (finite false other))
  show Binary64.add _ _ = _
  have sign : (if (finite false rank).magnitude + (finite false other).magnitude = 0 then false && false
      else decide ((finite false rank).magnitude + (finite false other).magnitude < 0)) = false := by
    rw [Bool.and_self, decide_eq_false (not_lt.mpr nonneg), ite_self]
  rw [Binary64.add, toRat, toRat, isNegative, isNegative, if_neg Bool.false_ne_true,
    if_neg Bool.false_ne_true, Rat.abs_of_nonneg nonneg]
  exact congrArg (nearest · _) sign

theorem add (left : x.IsNear p a) (right : y.IsNear q b) (bits : Nat) (small : p + q + (a + b) < 2 ^ bits)
    (range : bits ≤ 1023) : (x + y).IsNear (p + q) (a + b + 2 ^ bits / 2 ^ 54) := by
  have nonneg := add_nonneg x.magnitude_nonneg y.magnitude_nonneg
  rw [left.add_eq right]
  obtain ⟨rank, rfl, near⟩ := left
  obtain ⟨other, rfl, nearOther⟩ := right
  rw [abs_le] at near nearOther
  refine (isNear_nearest nonneg (by linarith) range).of_exact ?_
  rw [abs_le]
  constructor <;> linarith

theorem mul_eq (left : x.IsNear p a) (right : y.IsNear q b) :
    x * y = nearest false (x.magnitude * y.magnitude) := by
  obtain ⟨rank, rfl, _⟩ := left
  obtain ⟨other, rfl, _⟩ := right
  rfl

theorem mul (left : x.IsNear p a) (right : y.IsNear q 0) (bits : Nat) (small : (p + a) * q < 2 ^ bits)
    (range : bits ≤ 1023) : (x * y).IsNear (p * q) (a * q + 2 ^ bits / 2 ^ 54) := by
  rw [left.mul_eq right, right.magnitude_eq]
  obtain ⟨rank, rfl, near⟩ := left
  have factor : 0 ≤ q := right.magnitude_eq ▸ y.magnitude_nonneg
  have nonneg := mul_nonneg (magnitude_nonneg (finite false rank)) factor
  have upper : (finite false rank).magnitude * q ≤ (p + a) * q :=
    mul_le_mul_of_nonneg_right (by linarith [(abs_le.mp near).2]) factor
  refine (isNear_nearest nonneg (lt_of_le_of_lt upper small) range).of_exact ?_
  rw [← sub_mul, abs_mul, abs_of_nonneg factor]
  exact mul_le_mul_of_nonneg_right near factor

theorem mul_natCast {m n : Nat} (left : x.IsNear m 0) (right : y.IsNear n 0) (small : m * n < 2 ^ 53) :
    (x * y).IsNear (m * n : Nat) 0 := by
  rw [left.mul_eq right, left.magnitude_eq, right.magnitude_eq, ← Nat.cast_mul]
  exact isNear_natCast small

theorem wholeMagnitude_natCast {n : Nat} (near : x.IsNear n 0) : x.wholeMagnitude = n := by
  have whole : (n : Rat).floor = n := Rat.floor_intCast n
  rw [wholeMagnitude, near.magnitude_eq, whole, Int.toNat_natCast]

theorem toWord_eq {n : Nat} (near : x.IsNear n 0) : x.toWord = min n largestWord := by
  have whole := near.wholeMagnitude_natCast
  obtain ⟨rank, rfl, _⟩ := near
  rw [toWord, if_neg Bool.false_ne_true, whole]

theorem isZero_eq_false (near : x.IsNear q 0) (positive : 0 < q) : x.isZero = false := by
  have value := near.magnitude_eq
  obtain ⟨rank, rfl, _⟩ := near
  rw [Bool.eq_false_iff]
  intro zero
  have rankZero : rank.val = 0 := by simpa [isZero, place?] using zero
  have noMagnitude := (magnitude_pos_iff false rank).not.mpr (by omega)
  rw [value] at noMagnitude
  exact noMagnitude positive

theorem div_eq (left : x.IsNear p a) (right : y.IsNear q 0) (positive : 0 < q) :
    x / y = nearest false (x.magnitude / q) := by
  have divisor := right.magnitude_eq
  have nonzero := right.isZero_eq_false positive
  obtain ⟨rank, rfl, _⟩ := left
  obtain ⟨other, rfl, _⟩ := right
  rw [← divisor]
  exact if_neg (Bool.eq_false_iff.mp nonzero)

theorem div (left : x.IsNear p 0) (right : y.IsNear q 0) (positive : 0 < q) (bits : Nat)
    (small : p / q < 2 ^ bits) (range : bits ≤ 1023) : (x / y).IsNear (p / q) (2 ^ bits / 2 ^ 54) := by
  have nonneg : 0 ≤ p := left.magnitude_eq ▸ x.magnitude_nonneg
  rw [left.div_eq right positive, left.magnitude_eq]
  exact isNear_nearest (div_nonneg nonneg positive.le) small range

/-- Rounding to a whole number adds half of one to the error. -/
theorem toWord_round (near : x.IsNear q a) (small : q + a + 1 / 2 < 2 ^ 53) :
    |(x.round.toWord : Rat) - q| ≤ 1 / 2 + a := by
  obtain ⟨rank, rfl, bound⟩ := near
  have nonneg := magnitude_nonneg (finite false rank)
  rw [round]
  generalize (finite false rank).magnitude = value at *
  have lower := floor_toNat_le (show 0 ≤ value + 1 / 2 by linarith)
  have upper := lt_floor_toNat_add_one (value + 1 / 2)
  rw [abs_le] at bound
  have whole : (value + 1 / 2).floor.toNat < 2 ^ 53 := by
    have cast : ((value + 1 / 2).floor.toNat : Rat) < (2 ^ 53 : Nat) := by
      push_cast
      linarith
    exact_mod_cast cast
  rw [toWord_natCast whole, abs_le]
  constructor <;> linarith

theorem toWord_truncate {n : Nat} (near : x.IsNear n 0) (small : n < 2 ^ 53) : x.truncate.toWord = n := by
  have value := near.magnitude_eq
  obtain ⟨rank, rfl, _⟩ := near
  have floor : (n : Rat).floor = n := Rat.floor_intCast n
  rw [truncate, value, floor, Int.toNat_natCast, toWord_natCast small]

theorem toWord_round_natCast {n : Nat} (near : x.IsNear n 0) (small : n < 2 ^ 53) : x.round.toWord = n := by
  have value := near.magnitude_eq
  obtain ⟨rank, rfl, _⟩ := near
  have lower : n ≤ ((n : Rat) + 1 / 2).floor.toNat := le_floor_toNat (by linarith)
  have upper : ((n : Rat) + 1 / 2).floor.toNat < n + 1 := by
    have cast : (((n : Rat) + 1 / 2).floor.toNat : Rat) ≤ n + 1 / 2 := floor_toNat_le (by positivity)
    have below : (((n : Rat) + 1 / 2).floor.toNat : Rat) < ((n + 1 : Nat) : Rat) := by
      push_cast
      linarith
    exact_mod_cast below
  have whole : ((n : Rat) + 1 / 2).floor.toNat = n := by omega
  rw [round, value, whole, toWord_natCast small]

end IsNear

end Binary64

end CellFormat

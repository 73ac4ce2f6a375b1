import CellFormat.Binary64.Text
import Mathlib.Tactic.Linarith
import Mathlib.Tactic.FieldSimp

/-!
Rounding gives back what needs none: the nearest number to the magnitude of a finite one is this number.
Magnitudes past either end of the range round to an infinity and to zero, which is what reading a decimal
takes them for.
-/

namespace CellFormat

theorem roundHalfEven_natCast (n : Nat) : roundHalfEven n = n := by
  have below : (n : Rat).floor = n := Rat.floor_intCast n
  simp [roundHalfEven, below]

theorem floor_le_roundHalfEven (q : Rat) : q.floor.toNat ≤ roundHalfEven q := by
  unfold roundHalfEven
  dsimp only
  split
  · exact le_rfl
  · split <;> omega

theorem le_floor_toNat {n : Nat} {q : Rat} (bound : n ≤ q) : n ≤ q.floor.toNat := by
  have whole : (n : Int) ≤ q.floor := Rat.le_floor_iff.mpr (by exact_mod_cast bound)
  omega

theorem floor_toNat_le {q : Rat} (nonneg : 0 ≤ q) : (q.floor.toNat : Rat) ≤ q := by
  have whole : ((q.floor.toNat : Nat) : Int) = q.floor :=
    Int.toNat_of_nonneg (Rat.le_floor_iff.mpr (by simpa using nonneg))
  have cast : (q.floor.toNat : Rat) = q.floor := by exact_mod_cast congrArg (Int.cast (R := Rat)) whole
  rw [cast]
  exact Rat.floor_le q

theorem le_log2_floor {k : Nat} {q : Rat} (bound : 2 ^ k ≤ q) : k ≤ q.floor.toNat.log2 := by
  have whole : 2 ^ k ≤ q.floor.toNat := le_floor_toNat (by exact_mod_cast bound)
  exact (Nat.le_log2 (whole.trans_lt' (Nat.two_pow_pos k)).ne').mpr whole

theorem floor_toNat_eq_zero {q : Rat} (small : q < 1) : q.floor.toNat = 0 := by
  have bound : q.floor < 1 := Rat.floor_lt_iff.mpr (by simpa using small)
  omega

theorem roundHalfEven_eq_zero {q : Rat} (small : q < 1 / 2) : roundHalfEven q = 0 := by
  have below : q.floor.toNat = 0 := floor_toNat_eq_zero (by linarith)
  simp only [roundHalfEven, below]
  rw [if_pos (by simpa using small)]

/-- The units of a place as a significand times a power of two. The exponents are those that rounding finds. -/
theorem exists_significand (rank : Nat) : ∃ significand exponent, significand < 2 ^ 53 ∧
    (exponent = 0 ∨ 2 ^ 52 ≤ significand) ∧ rankUnits rank = significand * 2 ^ exponent ∧
    rank = exponent * placesPerDoubling + significand := by
  have places : placesPerDoubling = 2 ^ 52 := rfl
  unfold rankUnits
  by_cases first : rank < placesPerDoubling
  · exact ⟨rank, 0, by omega, .inl rfl, by simp [first], by simp⟩
  · have positive : 0 < placesPerDoubling := by omega
    have rest : rank % placesPerDoubling < placesPerDoubling := Nat.mod_lt rank positive
    have whole := Nat.div_add_mod' rank placesPerDoubling
    have doubled : 1 ≤ rank / placesPerDoubling := (Nat.one_le_div_iff positive).mpr (Nat.le_of_not_lt first)
    refine ⟨placesPerDoubling + rank % placesPerDoubling, rank / placesPerDoubling - 1, by omega,
      .inr (by omega), by rw [if_neg first]; rfl, ?_⟩
    have split := Nat.sub_mul (rank / placesPerDoubling) 1 placesPerDoubling
    have bound := Nat.mul_le_mul_right placesPerDoubling doubled
    omega

namespace Binary64

theorem ofRank_val (negative : Bool) (rank : Fin finiteCount) : ofRank negative rank = finite negative rank :=
  dif_pos rank.isLt

theorem ofRank_of_le {rank : Nat} (outside : finiteCount ≤ rank) (negative : Bool) :
    ofRank negative rank = infinite negative :=
  dif_neg (Nat.not_lt.mpr outside)

theorem isFinite_abs (x : Binary64) : x.abs.isFinite = x.isFinite := by cases x <;> rfl

theorem unitsPerOne_eq : unitsPerOne = 2 ^ 1074 := by
  unfold unitsPerOne
  generalize 1074 = places
  rfl

theorem cast_unitsPerOne : (unitsPerOne : Rat) = 2 ^ 1074 := by
  rw [unitsPerOne_eq, Nat.cast_pow, Nat.cast_ofNat]

theorem unitsPerOne_pos : (0 : Rat) < unitsPerOne := by
  rw [cast_unitsPerOne]
  positivity

theorem nearest_div_unitsPerOne (negative : Bool) (units : Rat) :
    nearest negative (units / unitsPerOne) =
      ofRank negative ((units.floor.toNat.log2 - 52) * placesPerDoubling +
        roundHalfEven (units / 2 ^ (units.floor.toNat.log2 - 52))) := by
  unfold nearest
  rw [div_mul_cancel₀ units unitsPerOne_pos.ne']
  simp only [Nat.pow_eq, Nat.cast_pow, Nat.cast_ofNat]

theorem nearest_units (negative : Bool) {significand exponent : Nat} (small : significand < 2 ^ 53)
    (normal : exponent = 0 ∨ 2 ^ 52 ≤ significand) :
    nearest negative ((significand * 2 ^ exponent : Nat) / unitsPerOne) =
      ofRank negative (exponent * placesPerDoubling + significand) := by
  have whole : ((significand * 2 ^ exponent : Nat) : Rat).floor = (significand * 2 ^ exponent : Nat) :=
    Rat.floor_intCast _
  have log : (significand * 2 ^ exponent).log2 - 52 = exponent := by
    rcases normal with rfl | normal
    · by_cases zero : significand = 0
      · simp [zero]
      · have bound := (Nat.log2_lt zero).mpr small
        rw [pow_zero, Nat.mul_one]
        omega
    · have lower := Nat.mul_le_mul_right (2 ^ exponent) normal
      have upper := Nat.mul_lt_mul_of_pos_right small (Nat.two_pow_pos exponent)
      rw [← Nat.pow_add] at lower upper
      have nonzero : significand * 2 ^ exponent ≠ 0 :=
        (lower.trans_lt' (Nat.two_pow_pos _)).ne'
      have exact := (Nat.log2_eq_iff (k := 52 + exponent) nonzero).mpr
        ⟨lower, by rwa [show 52 + exponent + 1 = 53 + exponent by omega]⟩
      omega
  have quotient : ((significand * 2 ^ exponent : Nat) : Rat) / 2 ^ exponent = significand := by
    push_cast
    field_simp
  rw [nearest_div_unitsPerOne, whole, Int.toNat_natCast, log, quotient, roundHalfEven_natCast]

/-- Rounding a magnitude that is a number's gives back the number. -/
theorem nearest_magnitude (negative other : Bool) (rank : Fin finiteCount) :
    nearest negative (finite other rank).magnitude = finite negative rank := by
  obtain ⟨significand, exponent, small, normal, units, place⟩ := exists_significand rank.val
  have rounded := nearest_units negative small normal
  rw [← units, ← place, ofRank_val] at rounded
  exact rounded

/-- What is too large for a number rounds to the infinity. -/
theorem nearest_of_le {units : Rat} (large : 2 ^ (2046 + 52) ≤ units) (negative : Bool) :
    nearest negative (units / unitsPerOne) = infinite negative := by
  have positive : 0 < units := lt_of_lt_of_le (by positivity) large
  have log := le_log2_floor large
  have reached : (2 : Rat) ^ units.floor.toNat.log2 ≤ units := by
    have nonzero : units.floor.toNat ≠ 0 := by
      intro zero
      rw [zero, Nat.log2_zero] at log
      omega
    have power := Nat.log2_self_le nonzero
    exact le_trans (by exact_mod_cast power) (floor_toNat_le positive.le)
  rw [nearest_div_unitsPerOne]
  obtain ⟨exponent, same⟩ : ∃ exponent, units.floor.toNat.log2 = exponent + 52 :=
    Nat.exists_eq_add_of_le' (by omega)
  rw [same] at log reached ⊢
  have quotient : ((placesPerDoubling : Nat) : Rat) ≤ units / 2 ^ exponent := by
    rw [le_div_iff₀ (by positivity)]
    refine le_trans (le_of_eq ?_) reached
    rw [pow_add, mul_comm]
    rfl
  have significand := (le_floor_toNat quotient).trans (floor_le_roundHalfEven _)
  have step := Nat.mul_le_mul_right placesPerDoubling (show 2046 ≤ exponent by omega)
  apply ofRank_of_le
  rw [Nat.add_sub_cancel]
  unfold finiteCount
  omega

/-- What is below half the smallest magnitude rounds to zero. -/
theorem nearest_of_lt {units : Rat} (small : units < 1 / 2) (negative : Bool) :
    nearest negative (units / unitsPerOne) = ofRank negative 0 := by
  have whole : units.floor.toNat = 0 := floor_toNat_eq_zero (by linarith)
  rw [nearest_div_unitsPerOne, whole]
  simp [roundHalfEven_eq_zero small]

end Binary64

namespace Decimal

theorem toRat_neg (coefficient places : Nat) :
    (⟨coefficient, -places⟩ : Decimal).toRat = coefficient / 10 ^ places := by
  cases places with
  | zero => simp [toRat]
  | succ n =>
    have opened : (⟨coefficient, -((n + 1 : Nat) : Int)⟩ : Decimal).toRat =
        coefficient / ((Nat.pow 10 (n + 1) : Nat) : Rat) := rfl
    rw [opened, Nat.pow_eq, Nat.cast_pow, Nat.cast_ofNat]

/-- A power of ten that is too large for a number, whatever stands before it. -/
theorem le_units_of_le {d : Decimal} (large : 309 ≤ d.exponent) (nonzero : d.coefficient ≠ 0) :
    2 ^ (2046 + 52) ≤ d.toRat * unitsPerOne := by
  obtain ⟨coefficient, exponent⟩ := d
  dsimp only at large nonzero
  obtain ⟨n, rfl⟩ : ∃ n : Nat, exponent = n := Int.eq_ofNat_of_zero_le (by omega)
  have digits : 309 ≤ n := by exact_mod_cast large
  have power : 2 ^ 1024 ≤ 10 ^ 309 := by decide +kernel
  have product : 2 ^ 1024 ≤ coefficient * 10 ^ n :=
    calc 2 ^ 1024 ≤ 10 ^ n := le_trans power (pow_le_pow_right₀ (by decide) digits)
      _ ≤ coefficient * 10 ^ n := Nat.le_mul_of_pos_left _ (Nat.pos_of_ne_zero nonzero)
  have opened : (⟨coefficient, n⟩ : Decimal).toRat = ((coefficient * 10 ^ n : Nat) : Rat) := by
    simp [toRat]
  rw [opened, Binary64.cast_unitsPerOne, show 2046 + 52 = 1024 + 1074 from rfl, pow_add]
  exact mul_le_mul_of_nonneg_right (by exact_mod_cast product) (by positivity)

/-- A power of ten that is too small for a number, for what stands before it. -/
theorem units_lt_of_le {d : Decimal} (tiny : d.coefficient.log2 + 1 + 3 * d.exponent ≤ -1080) :
    d.toRat * unitsPerOne < 1 / 2 := by
  obtain ⟨coefficient, exponent⟩ := d
  dsimp only at tiny
  obtain ⟨places, rfl⟩ : ∃ places : Nat, exponent = -places := Int.exists_eq_neg_ofNat (by omega)
  have digits : coefficient.log2 + 1 + (1074 + 6) ≤ 3 * places := by omega
  have product : coefficient * (2 ^ 1074 * 2 ^ 6) < 10 ^ places :=
    calc coefficient * (2 ^ 1074 * 2 ^ 6) < 2 ^ (coefficient.log2 + 1) * (2 ^ 1074 * 2 ^ 6) :=
          Nat.mul_lt_mul_of_pos_right Nat.lt_log2_self (by positivity)
      _ = 2 ^ (coefficient.log2 + 1 + (1074 + 6)) := by rw [pow_add _ _ (1074 + 6), pow_add _ 1074]
      _ ≤ 2 ^ (3 * places) := pow_le_pow_right₀ (by decide) digits
      _ = 8 ^ places := pow_mul ..
      _ ≤ 10 ^ places := Nat.pow_le_pow_left (by decide) places
  have below : (coefficient : Rat) * (2 ^ 1074 * 2 ^ 6) < 10 ^ places := by exact_mod_cast product
  rw [toRat_neg, Binary64.cast_unitsPerOne, div_mul_eq_mul_div, div_lt_iff₀ (by positivity)]
  have nonneg : 0 ≤ (coefficient : Rat) * 2 ^ 1074 := by positivity
  generalize (2 : Rat) ^ 1074 = scale at *
  linarith

end Decimal

/-- The powers of ten that are settled first round the same way. -/
theorem Binary64.ofDecimal_eq_nearest (negative : Bool) (d : Decimal) :
    ofDecimal negative d = nearest negative d.toRat := by
  have inUnits : d.toRat = d.toRat * unitsPerOne / unitsPerOne :=
    (mul_div_cancel_right₀ _ unitsPerOne_pos.ne').symm
  unfold ofDecimal
  by_cases zero : d.coefficient = 0
  · have none : d.toRat = 0 := by
      unfold Decimal.toRat
      split <;> simp [zero]
    rw [if_pos zero, inUnits, none, zero_mul, nearest_of_lt (by norm_num)]
  rw [if_neg zero]
  by_cases large : 309 ≤ d.exponent
  · rw [if_pos large, inUnits, nearest_of_le (Decimal.le_units_of_le large zero)]
  rw [if_neg large]
  by_cases tiny : d.coefficient.log2 + 1 + 3 * d.exponent ≤ -1080
  · rw [if_pos tiny, inUnits, nearest_of_lt (Decimal.units_lt_of_le tiny)]
  rw [if_neg tiny]

end CellFormat

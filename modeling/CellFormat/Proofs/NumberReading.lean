import CellFormat.Proofs.NumberText
import CellFormat.Proofs.Rounding
import Mathlib.Data.List.TakeWhile
import Mathlib.Data.Nat.Digits.Defs
import Mathlib.Data.Nat.Prime.Basic

/-!
The text of a number reads back as the number: the digits that it is written with round to it, and reading
them gives the decimal they were written for.
-/

namespace CellFormat

theorem digitsValue_decimalDigits (n : Nat) : digitsValue (decimalDigits n) = n :=
  Nat.ofDigitChars_ten_toDigits

theorem digitsValue_paddedDigits (width n : Nat) : digitsValue (paddedDigits width n) = n := by
  rw [digitsValue, paddedDigits, List.leftpad, Nat.ofDigitChars_append, Nat.ofDigitChars_replicate_zero,
    Nat.mul_zero]
  exact digitsValue_decimalDigits n

theorem paddedDigits_inj {width m n : Nat} (same : paddedDigits width m = paddedDigits width n) : m = n := by
  rw [← digitsValue_paddedDigits width m, same, digitsValue_paddedDigits]

theorem le_length_paddedDigits (width n : Nat) : width ≤ (paddedDigits width n).length := by
  simp only [paddedDigits, List.leftpad, List.length_append, List.length_replicate]
  omega

theorem length_paddedDigits {width n : Nat} (positive : 0 < width) (bound : n < 10 ^ width) :
    (paddedDigits width n).length = width := by
  have digits : (decimalDigits n).length ≤ width := Nat.toDigits_length 10 n width positive bound
  rw [paddedDigits, List.length_leftpad, Nat.max_eq_left digits]

theorem length_paddedDigits_two (n : Nat) (small : n < 100) : (paddedDigits 2 n).length = 2 :=
  length_paddedDigits two_pos small

theorem paddedDigits_append_inj {m n : Nat} (small : m < 100) (otherSmall : n < 100) {rest tail : List Char}
    (same : paddedDigits 2 m ++ rest = paddedDigits 2 n ++ tail) : m = n ∧ rest = tail := by
  have widths := (length_paddedDigits_two m small).trans (length_paddedDigits_two n otherSmall).symm
  obtain ⟨digits, rests⟩ := List.append_inj same widths
  exact ⟨paddedDigits_inj digits, rests⟩

namespace Decimal

variable {whole fraction : List Char}

theorem read?_digits (digits : ∀ c ∈ whole, c.isDigit = true) (nonempty : whole ≠ []) :
    read? whole = some ⟨digitsValue whole, 0⟩ := by
  have taken : whole.takeWhile Char.isDigit = whole := List.takeWhile_eq_self_iff.mpr digits
  have left : whole.dropWhile Char.isDigit = [] := List.dropWhile_eq_nil_iff.mpr digits
  simp [read?, taken, left, nonempty, readExponent?]

theorem read?_point (wholeDigits : ∀ c ∈ whole, c.isDigit = true) (nonempty : whole ≠ [])
    (fractionDigits : ∀ c ∈ fraction, c.isDigit = true) :
    read? (whole ++ '.' :: fraction) = some ⟨digitsValue (whole ++ fraction), -fraction.length⟩ := by
  have taken : (whole ++ '.' :: fraction).takeWhile Char.isDigit = whole := by
    rw [List.takeWhile_append_of_pos wholeDigits, List.takeWhile_cons_of_neg (by decide), List.append_nil]
  have left : (whole ++ '.' :: fraction).dropWhile Char.isDigit = '.' :: fraction := by
    rw [List.dropWhile_append_of_pos wholeDigits, List.dropWhile_cons_of_neg (by decide)]
  have all : fraction.takeWhile Char.isDigit = fraction := List.takeWhile_eq_self_iff.mpr fractionDigits
  have none : fraction.dropWhile Char.isDigit = [] := List.dropWhile_eq_nil_iff.mpr fractionDigits
  simp [read?, taken, left, all, none, nonempty, readExponent?]

/-- The text of a decimal reads as a decimal of the same value. -/
theorem read?_text (d : Decimal) : ∃ found, read? d.text = some found ∧ found.toRat = d.toRat := by
  obtain ⟨coefficient, exponent⟩ := d
  cases exponent with
  | ofNat zeros =>
    have text : Decimal.text ⟨coefficient, .ofNat zeros⟩ =
        decimalDigits coefficient ++ List.replicate zeros '0' := rfl
    have digits : ∀ c ∈ decimalDigits coefficient ++ List.replicate zeros '0', c.isDigit = true := by
      intro c member
      rcases List.mem_append.mp member with digit | zero
      · exact isDigit_of_mem_decimalDigits digit
      · rw [List.eq_of_mem_replicate zero]
        decide
    have nonempty : decimalDigits coefficient ++ List.replicate zeros '0' ≠ [] :=
      List.append_ne_nil_of_left_ne_nil Nat.toDigits_ne_nil _
    have value : digitsValue (decimalDigits coefficient ++ List.replicate zeros '0') =
        10 ^ zeros * coefficient := by
      rw [digitsValue, Nat.ofDigitChars_append, Nat.ofDigitChars_replicate_zero]
      exact congrArg (10 ^ zeros * ·) (digitsValue_decimalDigits coefficient)
    rw [text]
    refine ⟨_, read?_digits digits nonempty, ?_⟩
    rw [value]
    simp [toRat, mul_comm]
  | negSucc n =>
    have digits : ∀ c ∈ paddedDigits (n + 2) coefficient, c.isDigit = true :=
      fun c member => isDigit_of_mem_paddedDigits member
    have width := le_length_paddedDigits (n + 2) coefficient
    have value := digitsValue_paddedDigits (n + 2) coefficient
    have text : Decimal.text ⟨coefficient, .negSucc n⟩ =
        (paddedDigits (n + 2) coefficient).take ((paddedDigits (n + 2) coefficient).length - (n + 1)) ++
          '.' :: (paddedDigits (n + 2) coefficient).drop
            ((paddedDigits (n + 2) coefficient).length - (n + 1)) := rfl
    rw [text]
    generalize paddedDigits (n + 2) coefficient = padded at *
    have nonempty : padded.take (padded.length - (n + 1)) ≠ [] := by
      rw [← List.length_pos_iff, List.length_take]
      omega
    have places : (padded.drop (padded.length - (n + 1))).length = n + 1 := by
      rw [List.length_drop]
      omega
    refine ⟨_, read?_point (fun c member => digits c (List.mem_of_mem_take member)) nonempty
      (fun c member => digits c (List.mem_of_mem_drop member)), ?_⟩
    rw [List.take_append_drop, value, places]
    rfl

/-- The text of a decimal has no sign and is no name of a number. -/
theorem notMem_text (d : Decimal) : '-' ∉ d.text ∧ '+' ∉ d.text ∧ 'n' ∉ d.text.map Char.toLower := by
  have characters {c : Char} (member : c ∈ d.text) := isDigit_or_point_of_mem_text member
  refine ⟨fun member => ?_, fun member => ?_, fun member => ?_⟩
  · exact absurd (characters member) (by decide)
  · exact absurd (characters member) (by decide)
  · obtain ⟨c, inside, lower⟩ := List.mem_map.mp member
    rcases characters inside with digit | rfl
    · have same : c.toLower = c := by
        refine dif_neg ?_
        rintro ⟨letter, -⟩
        have above : 'A'.toNat ≤ c.toNat := UInt32.le_iff_toNat_le.mp letter
        have below : c.toNat ≤ '9'.toNat := (Char.isDigit_iff_toNat.mp digit).2
        exact absurd (above.trans below) (by decide)
      rw [same] at lower
      subst lower
      exact absurd digit (by decide)
    · exact absurd lower (by decide)

end Decimal

namespace Binary64

theorem exactDecimal_toRat {q : Rat} (nonneg : 0 ≤ q) {k : Nat} (power : q.den ∣ 2 ^ k) :
    (exactDecimal q).toRat = q := by
  obtain ⟨places, -, den⟩ := (Nat.dvd_prime_pow Nat.prime_two).mp power
  have num : ((q.num.toNat : Nat) : Rat) = q.num := by
    exact_mod_cast Int.toNat_of_nonneg (Rat.num_nonneg.mpr nonneg)
  have digits : exactDecimal q = ⟨q.num.toNat * 5 ^ places, -places⟩ := by
    simp only [exactDecimal, den, Nat.log2_two_pow, Nat.pow_eq]
  have ten : (10 : Rat) ^ places = 2 ^ places * 5 ^ places := by
    rw [← mul_pow]
    norm_num
  have quotient : (q.num : Rat) / 2 ^ places = q := by
    have whole := Rat.num_div_den q
    rw [den] at whole
    exact_mod_cast whole
  rw [digits, Decimal.toRat_neg, Nat.cast_mul, Nat.cast_pow, num, ten, Nat.cast_ofNat,
    mul_div_mul_right _ _ (by positivity), quotient]

theorem den_magnitude_dvd (negative : Bool) (rank : Fin finiteCount) :
    (finite negative rank).magnitude.den ∣ 2 ^ 1074 := by
  have quotient : (finite negative rank).magnitude = Rat.divInt (rankUnits rank) unitsPerOne := by
    rw [Rat.divInt_eq_div]
    rfl
  rw [quotient, ← unitsPerOne_eq]
  exact Int.natCast_dvd_natCast.mp (Rat.den_dvd _ _)

theorem ofDecimal_of_readingBack? {x : Binary64} {magnitude : Rat} {exponent : Int} {d : Decimal}
    (found : readingBack? x magnitude exponent = some d) : ofDecimal false d = x := by
  unfold readingBack? at found
  dsimp only at found
  split at found
  · next below above =>
    split at found <;> cases found
    · exact beq_iff_eq.mp below
    · exact beq_iff_eq.mp above
  · next below _ =>
    cases found
    exact beq_iff_eq.mp below
  · next _ above =>
    cases found
    exact beq_iff_eq.mp above
  · cases found

theorem ofRank_sign {rank : Nat} {place : Fin finiteCount} (same : ofRank false rank = finite false place)
    (negative : Bool) : ofRank negative rank = finite negative place := by
  unfold ofRank at same ⊢
  split at same
  · next within =>
    rw [dif_pos within]
    cases same
    rfl
  · cases same

/-- Whichever digits are found shortest, they round to the number. -/
theorem nearest_shortest (negative : Bool) (rank : Fin finiteCount) :
    nearest negative (shortest (finite false rank)).toRat = finite negative rank := by
  have magnitude : 0 ≤ (finite false rank).magnitude := div_nonneg (Nat.cast_nonneg _) unitsPerOne_pos.le
  unfold shortest
  dsimp only
  cases found : (List.range 18).findSome? fun (digits : Nat) =>
      readingBack? (finite false rank) (finite false rank).magnitude
        (leadingPlace (finite false rank).magnitude - digits) with
  | none =>
    rw [Option.getD_none, exactDecimal_toRat magnitude (den_magnitude_dvd false rank)]
    exact nearest_magnitude negative false rank
  | some d =>
    obtain ⟨digits, -, reads⟩ := List.exists_of_findSome?_eq_some found
    have rounds := ofDecimal_of_readingBack? reads
    rw [ofDecimal_eq_nearest] at rounds
    exact ofRank_sign rounds negative

/-- A finite number is written as a decimal that rounds to it. -/
theorem exists_text_eq (negative : Bool) (rank : Fin finiteCount) :
    ∃ d : Decimal, (finite negative rank).text = String.ofList (if negative then '-' :: d.text else d.text) ∧
      nearest negative d.toRat = finite negative rank := by
  by_cases zero : rank.val = 0
  · refine ⟨⟨0, 0⟩, ?_, ?_⟩
    · simp only [text, if_pos zero]
      rfl
    · have none : (⟨0, 0⟩ : Decimal).toRat = 0 / unitsPerOne := by
        rw [zero_div]
        exact zero_mul _
      rw [none, nearest_of_lt (by norm_num), ← zero]
      exact ofRank_val negative rank
  · refine ⟨shortest (finite false rank), ?_, nearest_shortest negative rank⟩
    simp only [text, if_neg zero]

/-- The text of a number reads back as the number. -/
theorem ofText?_text (x : Binary64) : ofText? x.text = some x := by
  cases x with
  | nan => decide
  | infinite negative => cases negative <;> decide
  | finite negative rank =>
    obtain ⟨d, written, rounds⟩ := exists_text_eq negative rank
    obtain ⟨found, reads, value⟩ := d.read?_text
    obtain ⟨noMinus, noPlus, noLetter⟩ := d.notMem_text
    have sign : Decimal.splitSign (if negative then '-' :: d.text else d.text) = (negative, d.text) := by
      cases negative with
      | true => rfl
      | false =>
        show Decimal.splitSign d.text = (false, d.text)
        unfold Decimal.splitSign
        split
        · next opens => simp [opens] at noMinus
        · next opens => simp [opens] at noPlus
        · rfl
    have unnamed : ∀ name : String, 'n' ∈ name.toList → String.ofList (d.text.map Char.toLower) ≠ name := by
      rintro name letter rfl
      rw [String.toList_ofList] at letter
      exact noLetter letter
    unfold ofText?
    rw [written, String.toList_ofList, sign]
    simp only [unnamed "nan" (by decide), unnamed "inf" (by decide), unnamed "infinity" (by decide), or_self,
      if_false, reads, Option.map_some, ofDecimal_eq_nearest, value, rounds]

end Binary64

end CellFormat

import LoadSeries.Proofs.Binary64.Shortest
import LoadSeries.Proofs.Decimal.Reading
import LoadSeries.Proofs.Text.Pointed

/-!
Values rounded to two places. What is rounded is the shortest decimal of a double and not the double
itself, and it is rounded once: where the format has no room for all places of a decimal, the
decimal is too small to have any of the two.
-/
namespace LoadSeries
open Text

namespace Scientific

theorem value_eq_div (x : Scientific) : x.value =
    (x.coefficient * tenTo x.exponent.toNat : ℕ) / 10 ^ (-x.exponent).toNat := by
  have ten (n : ℕ) : (tenTo n : ℚ) = 10 ^ n := by exact_mod_cast rfl
  have power := zpow_eq_div 10 (by decide) x.exponent
  rw [Nat.cast_ofNat] at power
  rw [value, power, Nat.cast_mul, ten, mul_div_assoc]

theorem numberOf_positional (x : Scientific) : numberOf x.positional = x.value := by
  have digit : ∀ c ∈ digits x.coefficient, isDigit c = true := fun c => isDigit_of_mem_digits
  rw [value_eq_div]
  unfold positional
  dsimp only
  split
  · have none : (-x.exponent).toNat = 0 := by omega
    rw [none, pow_zero, div_one]
    split
    · rename_i zero
      rw [numberOf_digits digit, digitsValue_digits, zero, Nat.zero_mul]
    · rw [numberOf_digits (isDigit_append_zeros digit _), digitsValue_append_zeros,
        digitsValue_digits]
      rfl
  · have none : x.exponent.toNat = 0 := by omega
    have whole : x.coefficient * tenTo 0 = x.coefficient := Nat.mul_one _
    rw [none, whole]
    exact numberOf_pointed_padded (-x.exponent).toNat x.coefficient

end Scientific

namespace Decimal

variable {x : Decimal} {places : ℕ}

def value (x : Decimal) : ℚ := x.coefficient / 10 ^ x.scale

theorem roundHalfUp_eq (num : ℕ) {den : ℕ} (positive : 0 < den) :
    (roundHalfUp num den : ℤ) = ⌊(num : ℚ) / den + 1 / 2⌋ := by
  have positive' : (0 : ℚ) < den := by exact_mod_cast positive
  have same : (num : ℚ) / den + 1 / 2 = (2 * num + den : ℕ) / (2 * den : ℕ) := by
    push_cast
    field_simp
  rw [same, Rat.floor_natCast_div_natCast, roundHalfUp]
  rfl

theorem signed_of_nonneg {n : ℤ} (nonneg : 0 ≤ n) (m : ℕ) : signed (decide (n < 0)) m = m := by
  rw [signed, decide_eq_false (by omega), if_neg (by decide)]

theorem widen_eq (nonneg : 0 ≤ x.coefficient)
    (room : x.coefficient * 10 ^ places ≤ (maxCoefficient : ℤ)) :
    x.widen places = ⟨x.coefficient * 10 ^ places, x.scale + places⟩ := by
  induction places generalizing x with
  | zero => simp [widen]
  | succ places ih =>
    rw [pow_succ', ← mul_assoc] at room
    have one : (1 : ℤ) ≤ 10 ^ places := one_le_pow₀ (by decide)
    have small : x.coefficient * 10 ≤ maxCoefficient :=
      (le_mul_of_one_le_right (by omega) one).trans room
    rw [widen, if_pos (by omega), ih (by simp only; omega) room, pow_succ', ← mul_assoc]
    simp only [Decimal.mk.injEq, true_and]
    omega

/-- A number is rounded to so many places, and has as many, if there is room for them. -/
theorem toPlaces_eq (nonneg : 0 ≤ x.coefficient)
    (room : x.coefficient * 10 ^ (places - x.scale) ≤ (maxCoefficient : ℤ)) :
    x.toPlaces places = ⟨⌊x.value * 10 ^ places + 1 / 2⌋, places⟩ := by
  unfold toPlaces round
  split
  · rename_i few
    have whole : x.value * 10 ^ places = (x.coefficient * 10 ^ (places - x.scale) : ℤ) := by
      have power : (10 : ℚ) ^ places = 10 ^ (places - x.scale) * 10 ^ x.scale := by
        rw [← pow_add, Nat.sub_add_cancel few]
      rw [value, power]
      push_cast
      field_simp
    have half : ⌊(1 / 2 : ℚ)⌋ = 0 := by norm_num
    rw [whole, Int.floor_intCast_add, half, add_zero]
    exact (widen_eq nonneg room).trans (congrArg _ (Nat.add_sub_cancel' few))
  · rename_i many
    have whole : x.value * 10 ^ places =
        (x.coefficient.natAbs : ℚ) / (tenTo (x.scale - places) : ℕ) := by
      have ten : (tenTo (x.scale - places) : ℚ) = 10 ^ (x.scale - places) := by exact_mod_cast rfl
      have power : (10 : ℚ) ^ x.scale = 10 ^ (x.scale - places) * 10 ^ places := by
        rw [← pow_add, Nat.sub_add_cancel (by omega)]
      have size : (x.coefficient.natAbs : ℚ) = x.coefficient := by
        rw [Nat.cast_natAbs, abs_of_nonneg nonneg]
      rw [value, power, ten, size]
      field_simp
    rw [whole, ← roundHalfUp_eq _ (tenTo_pos _)]
    dsimp only
    rw [signed_of_nonneg nonneg, Nat.sub_self, widen]

/-- Of seventeen digits behind at least so many places none is among the first two. -/
theorem floor_of_tiny {n : ℕ} (tiny : n < 10 ^ 17) (fine : 28 ≤ places) :
    ⌊(n : ℚ) / 10 ^ places * 10 ^ 2 + 1 / 2⌋ = 0 := by
  have num : (n : ℚ) ≤ 10 ^ 17 := by exact_mod_cast tiny.le
  have den : (10 : ℚ) ^ 28 ≤ 10 ^ places := pow_le_pow_right₀ (by norm_num) fine
  have quotient : (n : ℚ) / 10 ^ places ≤ 10 ^ 17 / 10 ^ 28 := by gcongr
  have nonneg : (0 : ℚ) ≤ n / 10 ^ places := by positivity
  rw [Int.floor_eq_zero_iff]
  constructor
  · linarith
  · linarith

theorem toPlaces_of_tiny {n : ℕ} (tiny : n < 10 ^ 17) : toPlaces 2 ⟨n, maxScale⟩ = ⟨0, 2⟩ := by
  have most : 10 ^ 17 ≤ maxCoefficient := by decide
  have none : 2 - maxScale = 0 := rfl
  have room : (n : ℤ) * 10 ^ (2 - maxScale) ≤ maxCoefficient := by
    rw [none, pow_zero, mul_one]
    omega
  rw [toPlaces_eq (Int.natCast_nonneg n) room]
  exact congrArg (Decimal.mk · 2) (floor_of_tiny tiny le_rfl)

/-- A decimal of few digits that is not too great is in the format, up to places that make no
difference when it is rounded to two. -/
theorem exists_ofScientific? {number : Scientific} (short : (digits number.coefficient).length ≤ 17)
    (small : number.value < 2 * 10 ^ 26) :
    ∃ exact, ofScientific? false number = some exact ∧
      exact.toPlaces 2 = ⟨⌊number.value * 10 ^ 2 + 1 / 2⌋, 2⟩ := by
  have most : 2 * 10 ^ 26 * 10 ^ 2 ≤ maxCoefficient := by decide
  have few : number.coefficient < 10 ^ 17 :=
    (lt_pow_length_digits _).trans_le (Nat.pow_le_pow_right (by decide) short)
  have value_eq := number.value_eq_div
  have sides : number.exponent.toNat = 0 ∨ (-number.exponent).toNat = 0 := by omega
  unfold ofScientific?
  dsimp only
  generalize (-number.exponent).toNat = places at value_eq sides ⊢
  have fits : number.coefficient * tenTo number.exponent.toNat < 2 * 10 ^ 26 := by
    rcases sides with none | none
    · rw [none]
      exact (Nat.mul_one number.coefficient).trans_lt (few.trans (by decide))
    · rw [value_eq, none, pow_zero, div_one] at small
      exact_mod_cast small
  have fine (many : ¬ places ≤ maxScale) :
      number.coefficient * tenTo number.exponent.toNat < 10 ^ 17 := by
    have none := sides.resolve_right fun whole => many (whole ▸ Nat.zero_le _)
    rw [none]
    exact (Nat.mul_one number.coefficient).trans_lt few
  generalize number.coefficient * tenTo number.exponent.toNat = n at value_eq fits fine ⊢
  rw [if_neg (by omega)]
  split
  · have same : value ⟨n, places⟩ = number.value := by
      rw [value_eq]
      rfl
    have room : (n : ℤ) * 10 ^ (2 - places) ≤ maxCoefficient := by
      have power : 10 ^ (2 - places) ≤ 10 ^ 2 := Nat.pow_le_pow_right (by decide) (by omega)
      exact_mod_cast (Nat.mul_le_mul fits.le power).trans most
    refine ⟨⟨n, places⟩, rfl, ?_⟩
    rw [toPlaces_eq (Int.natCast_nonneg n) room, same]
  · rename_i many
    have tiny := fine many
    have none : ⌊number.value * 10 ^ 2 + 1 / 2⌋ = 0 := by
      rw [value_eq]
      exact floor_of_tiny tiny (Nat.le_of_lt (Nat.lt_of_not_le many))
    have rounded := roundHalfUp_le n (tenTo_pos (places - maxScale))
    refine ⟨⟨roundHalfUp n (tenTo (places - maxScale)), maxScale⟩, rfl, ?_⟩
    rw [toPlaces_of_tiny (rounded.trans_lt tiny), none]

/-- Two places are written behind the point, and in front of it the rest of the digits. -/
theorem text_of_two_places (n : ℕ) : Decimal.text ⟨n, 2⟩ =
    digits (n / 100) ++ ['.', digitChar (n / 10 % 10), digitChar (n % 10)] := by
  have row : paddedDigits 3 n =
      digits (n / 100) ++ [digitChar (n / 10 % 10), digitChar (n % 10)] := by
    rw [paddedDigits_succ, paddedDigits_succ, paddedDigits_one, List.append_assoc,
      Nat.div_div_eq_div_mul]
    rfl
  have nonneg : ¬ (n : ℤ) < 0 := by omega
  unfold text
  dsimp only
  rw [Int.natAbs_natCast, row, if_neg nonneg]
  simp

theorem numberOf_text (n : ℕ) : numberOf (Decimal.text ⟨n, 2⟩) = (n : ℚ) / 10 ^ 2 := by
  have nonneg : ¬ (n : ℤ) < 0 := by omega
  unfold text
  dsimp only
  rw [Int.natAbs_natCast, if_neg nonneg]
  exact numberOf_pointed_padded 2 n

theorem toBinary64_nearestTo {n : ℕ} (fits : Fits ⟨n, places⟩) :
    (toBinary64 ⟨n, places⟩).NearestTo ((n : ℚ) / 10 ^ places) := by
  have ten : (tenTo places : ℚ) = 10 ^ places := by exact_mod_cast rfl
  have most : Binary64.ratioBits n (tenTo places) ≤ Binary64.infinityBits := by
    unfold Binary64.ratioBits
    split
    · exact Nat.zero_le _
    · exact Nat.min_le_right _ _
  have finite := Nat.lt_of_le_of_ne most (ratioBits_ne_infinityBits fits)
  have nonneg : ¬ (n : ℤ) < 0 := by omega
  have unsigned : toBinary64 ⟨n, places⟩ = Binary64.ofRatio n (tenTo places) := by
    rw [toBinary64, Binary64.ofSignedRatio, if_neg nonneg]
    rfl
  rw [unsigned, ← ten]
  exact (Binary64.ofRatio_nearestTo (tenTo_pos places) finite).2

end Decimal

namespace MetricValue

variable {raw : Binary64} {coefficient : ℕ} {exponent : ℤ}

theorem ofBinary64_of_meaning (meaning : raw.meaning = .finite false coefficient exponent)
    {exact' : Decimal}
    (parsed : Decimal.ofScientific? false (Binary64.shortest coefficient exponent) = some exact') :
    ofBinary64 raw = .ok (ofDecimal exact') := by
  rw [ofBinary64, meaning]
  dsimp only
  rw [parsed]

/-- A double that is not too great has a value, which is rounded from its shortest decimal. -/
theorem exists_ofBinary64 (finite : raw.bits.toNat < Binary64.infinityBits)
    (small : Binary64.numberAt (raw.bits.toNat + 1) < 2 * 10 ^ 26) :
    ∃ (shortest : Scientific) (n : ℕ), raw.IsShortest shortest ∧ raw.text = shortest.positional ∧
      (n : ℤ) = ⌊shortest.value * 10 ^ 2 + 1 / 2⌋ ∧ Decimal.Fits ⟨n, 2⟩ ∧
        ofBinary64 raw = .ok ⟨⟨n, 2⟩, Decimal.toBinary64 ⟨n, 2⟩⟩ := by
  have meaning := Binary64.meaning_of_lt finite
  have isShortest := Binary64.isShortest_shortest finite
  have length := Binary64.length_digits_shortest raw.bits.toNat
  have made := @ofBinary64_of_meaning _ _ _ meaning
  have text := Binary64.text_of_meaning meaning
  generalize Binary64.shortest (Binary64.coefficientAt raw.bits.toNat)
    (Binary64.unitAt raw.bits.toNat - 1074) = shortest at isShortest length made text
  have reads : Binary64.Reads raw.bits.toNat shortest :=
    (Binary64.nearestTo_iff finite shortest.value_nonneg).mp isShortest.reads
  obtain ⟨exact', parsed, rounded⟩ :=
    Decimal.exists_ofScientific? length (reads.le_next.trans_lt small)
  have nonneg : (0 : ℤ) ≤ ⌊shortest.value * 10 ^ 2 + 1 / 2⌋ := by
    have := shortest.value_nonneg
    exact Int.floor_nonneg.mpr (by positivity)
  obtain ⟨n, floor⟩ := Int.eq_ofNat_of_zero_le nonneg
  have fits := (Decimal.fits_of_ofScientific? parsed).toPlaces (by decide : 2 ≤ Decimal.maxScale)
  rw [floor] at rounded
  rw [rounded] at fits
  refine ⟨shortest, n, isShortest, text, floor.symm, fits, ?_⟩
  rw [made parsed, ofDecimal, places, rounded]

/-- The next double behind one below this bound is no further than the power of two behind it. -/
theorem numberAt_succ_lt {bits : ℕ} (small : Binary64.numberAt bits < 10 ^ 26) :
    Binary64.numberAt (bits + 1) < 2 * 10 ^ 26 := by
  have power : Binary64.numberAt (1109 * 2 ^ 52 + 2 ^ 52) = 2 ^ 87 := by
    rw [Binary64.numberAt_of_parts (by decide) (.inr le_rfl)]
    norm_num
  have before : bits < 1109 * 2 ^ 52 + 2 ^ 52 := by
    refine Binary64.numberAt_strictMono.lt_iff_lt.mp ?_
    rw [power]
    exact small.trans (by norm_num)
  have next := Binary64.numberAt_strictMono.monotone (Nat.succ_le_of_lt before)
  rw [power] at next
  exact next.trans_lt (by norm_num)

/-- A finite double without a sign has a value that is its shortest decimal rounded to two places, a
half upwards; and the text of the value is that decimal, and its double the one nearest to it. -/
theorem rounds_half_up {number : ℚ} (unsigned : raw.bits.toNat < 2 ^ 63)
    (finite : raw.value? = some number) (small : number < 10 ^ 26) :
    ∃ value, ofBinary64 raw = .ok value ∧
      (∃ shortest : Scientific, raw.IsShortest shortest ∧ raw.text = shortest.positional ∧
        numberOf raw.text = shortest.value) ∧
      value.decimal.scale = 2 ∧
      value.decimal.coefficient = ⌊100 * numberOf raw.text + 1 / 2⌋ ∧
      (∃ whole tens ones, value.text = whole ++ ['.', tens, ones] ∧ IsNumeral whole ∧
        isDigit tens = true ∧ isDigit ones = true) ∧
      numberOf value.text = (value.decimal.coefficient : ℚ) / 100 ∧
      value.double.NearestTo (numberOf value.text) := by
  have below := Binary64.lt_of_value? unsigned finite
  rw [Binary64.value?_of_lt below] at finite
  obtain rfl := Option.some.inj finite
  obtain ⟨shortest, n, isShortest, text, floor, fits, made⟩ :=
    exists_ofBinary64 below (numberAt_succ_lt small)
  have shown : numberOf raw.text = shortest.value := by
    rw [text, Scientific.numberOf_positional]
  have digit (d : ℕ) : isDigit (digitChar (d % 10)) = true :=
    isDigit_digitChar (Nat.mod_lt d (by decide))
  have split := Decimal.text_of_two_places n
  refine ⟨_, made, ⟨shortest, isShortest, text, shown⟩, rfl, ?_,
    ⟨digits (n / 100), _, _, split, isNumeral_digits _, digit _, digit _⟩, ?_, ?_⟩
  · rw [shown, mul_comm, floor]
    norm_num
  · rw [MetricValue.text, Decimal.numberOf_text]
    norm_num
  · rw [MetricValue.text, Decimal.numberOf_text]
    exact Decimal.toBinary64_nearestTo fits

/-- The double nearest to 999999.999. -/
def belowMillion : Binary64 := ⟨0x412e847fff7ced91⟩

theorem rounds_half_up_carry : belowMillion.bits.toNat < 2 ^ 63 ∧
    belowMillion.value? = some (8589934583410065 * 2 ^ (-33 : ℤ)) ∧
      (8589934583410065 * 2 ^ (-33 : ℤ) : ℚ) < 10 ^ 26 ∧
        belowMillion.text = "999999.999".toList ∧
          ∃ value, ofBinary64 belowMillion = .ok value ∧ value.decimal = ⟨100000000, 2⟩ ∧
            value.double.NearestTo 1000000 := by
  have unsigned : belowMillion.bits.toNat < 2 ^ 63 := by decide
  have meaning : belowMillion.meaning = .finite false 8589934583410065 (-33) := by decide
  have finite : belowMillion.value? = some (8589934583410065 * 2 ^ (-33 : ℤ)) := by
    rw [Binary64.value?, meaning]
    norm_num
  have small : (8589934583410065 * 2 ^ (-33 : ℤ) : ℚ) < 10 ^ 26 := by norm_num
  have text : belowMillion.text = "999999.999".toList := by decide +kernel
  have number : numberOf belowMillion.text = 999999999 / 1000 := by
    rw [text]
    decide +kernel
  obtain ⟨value, made, -, scale, coefficient, -, shown, nearest⟩ :=
    rounds_half_up unsigned finite small
  have rounded : value.decimal.coefficient = 100000000 := by
    rw [coefficient, number]
    norm_num
  rw [shown, rounded] at nearest
  refine ⟨unsigned, finite, small, text, value, made, ?_, ?_⟩
  · rw [← rounded, ← scale]
  · norm_num at nearest
    exact nearest

end MetricValue

end LoadSeries

import LoadSeries.Proofs.Binary64.Grid

/-!
The rounding of ratios. The double of a ratio is the one nearest to it, of two that are equally near
the one whose last bit is zero; so far as there is such a one, for too great a ratio has none.
-/
namespace LoadSeries

section Exponent

variable {base : ℕ}

theorem zpow_eq_div (base : ℕ) (positive : 0 < base) (k : ℤ) :
    (base : ℚ) ^ k = (base : ℚ) ^ k.toNat / (base : ℚ) ^ (-k).toNat := by
  have nonzero : (base : ℚ) ≠ 0 := by positivity
  rw [← zpow_natCast, ← zpow_natCast, ← zpow_sub₀ nonzero]
  congr 1
  omega

theorem lt_mul_zpow_iff (positive : 0 < base) (a b : ℕ) (k : ℤ) :
    a * base ^ (-k).toNat < b * base ^ k.toNat ↔ (a : ℚ) < b * (base : ℚ) ^ k := by
  have below : (0 : ℚ) < (base : ℚ) ^ (-k).toNat := by positivity
  rw [zpow_eq_div base positive, ← mul_div_assoc, lt_div_iff₀ below]
  exact_mod_cast Iff.rfl

/-- The exponent of a ratio in a base is the difference of those of its numbers, or one less. -/
theorem exponent_bounds {num den a b : ℕ} (base_gt : 1 < base) (num_ge : base ^ a ≤ num)
    (num_lt : num < base ^ (a + 1)) (den_ge : base ^ b ≤ den) (den_lt : den < base ^ (b + 1))
    {k r : ℤ} (k_eq : k = (a : ℤ) - b)
    (r_eq : r = if num * base ^ (-k).toNat < den * base ^ k.toNat then k - 1 else k) :
    (base : ℚ) ^ r ≤ (num : ℚ) / den ∧ (num : ℚ) / den < (base : ℚ) ^ (r + 1) := by
  have positive : 0 < base := by omega
  have nonzero : (base : ℚ) ≠ 0 := by positivity
  have den_pos : (0 : ℚ) < den := by exact_mod_cast (Nat.pow_pos positive).trans_le den_ge
  have power (j : ℤ) : (0 : ℚ) < (base : ℚ) ^ j := zpow_pos (by exact_mod_cast positive) j
  rw [le_div_iff₀ den_pos, div_lt_iff₀ den_pos]
  split at r_eq
  · rename_i less
    rw [lt_mul_zpow_iff positive] at less
    subst r_eq
    rw [sub_add_cancel]
    refine ⟨?_, by linarith⟩
    have den_le : (den : ℚ) ≤ (base : ℚ) ^ ((b : ℤ) + 1) := by exact_mod_cast den_lt.le
    calc (base : ℚ) ^ (k - 1) * den ≤ (base : ℚ) ^ (k - 1) * (base : ℚ) ^ ((b : ℤ) + 1) :=
          mul_le_mul_of_nonneg_left den_le (power _).le
      _ = (base : ℚ) ^ (a : ℤ) := by
          rw [← zpow_add₀ nonzero]
          congr 1
          omega
      _ ≤ num := by exact_mod_cast num_ge
  · rename_i more
    rw [lt_mul_zpow_iff positive] at more
    subst r_eq
    refine ⟨by linarith, ?_⟩
    have den_le : (base : ℚ) ^ (b : ℤ) ≤ den := by exact_mod_cast den_ge
    calc (num : ℚ) < (base : ℚ) ^ ((a : ℤ) + 1) := by exact_mod_cast num_lt
      _ = (base : ℚ) ^ (r + 1) * (base : ℚ) ^ (b : ℤ) := by
          rw [← zpow_add₀ nonzero]
          congr 1
          omega
      _ ≤ (base : ℚ) ^ (r + 1) * den := mul_le_mul_of_nonneg_left den_le (power _).le

end Exponent

namespace Binary64

variable {num den : ℕ}

/-- A ratio is rounded down if it is before the middle of two whole numbers, and else up, where the
middle goes to the even one. -/
theorem roundEven_cases (num : ℕ) (positive : 0 < den) : ∃ floor : ℕ,
    (floor : ℚ) ≤ (num : ℚ) / den ∧ (num : ℚ) / den < floor + 1 ∧
      (roundEven num den = floor ∧ (2 * ((num : ℚ) / den) < 2 * floor + 1 ∨
          2 * ((num : ℚ) / den) = 2 * floor + 1 ∧ floor % 2 = 0) ∨
        roundEven num den = floor + 1 ∧ (2 * floor + 1 < 2 * ((num : ℚ) / den) ∨
          2 * floor + 1 = 2 * ((num : ℚ) / den) ∧ floor % 2 = 1)) := by
  have den_pos : (0 : ℚ) < den := by exact_mod_cast positive
  have value : (num : ℚ) / den = (num / den : ℕ) + (num % den : ℕ) / den := by
    rw [div_eq_iff den_pos.ne', add_mul, div_mul_cancel₀ _ den_pos.ne']
    exact_mod_cast (Nat.div_add_mod' num den).symm
  have rest : (num % den : ℕ) < (den : ℚ) := by exact_mod_cast Nat.mod_lt num positive
  have less : 2 * ((num % den : ℕ) / den : ℚ) < 1 ↔ 2 * (num % den) < den := by
    rw [← mul_div_assoc, div_lt_one den_pos]
    exact_mod_cast Iff.rfl
  have same : 2 * ((num % den : ℕ) / den : ℚ) = 1 ↔ 2 * (num % den) = den := by
    rw [← mul_div_assoc, div_eq_one_iff_eq den_pos.ne']
    exact_mod_cast Iff.rfl
  have low : (0 : ℚ) ≤ (num % den : ℕ) / den := by positivity
  have high : (num % den : ℕ) / den < (1 : ℚ) := (div_lt_one den_pos).mpr rest
  have rounded : roundEven num den = if 2 * (num % den) < den ∨
      2 * (num % den) = den ∧ num / den % 2 = 0 then num / den else num / den + 1 := by
    simp [roundEven]
  rw [rounded, value]
  refine ⟨num / den, by linarith, by linarith, ?_⟩
  split
  · rename_i down
    rw [← less, ← same] at down
    refine .inl ⟨rfl, down.imp (by intro h; linarith) ?_⟩
    rintro ⟨middle, even⟩
    exact ⟨by linarith, even⟩
  · rename_i up
    refine .inr ⟨rfl, ?_⟩
    rw [← less, ← same, not_or, not_and] at up
    obtain ⟨above, odd⟩ := up
    rcases eq_or_lt_of_le (not_lt.mp above) with middle | past
    · have := odd middle.symm
      exact .inr ⟨by linarith, by omega⟩
    · exact .inl (by linarith)

theorem binaryExponent_spec (num_pos : 0 < num) (den_pos : 0 < den) :
    (2 : ℚ) ^ binaryExponent num den ≤ (num : ℚ) / den ∧
      (num : ℚ) / den < 2 ^ (binaryExponent num den + 1) :=
  exponent_bounds (by decide : 1 < 2) (Nat.log2_self_le num_pos.ne') Nat.lt_log2_self
    (Nat.log2_self_le den_pos.ne') Nat.lt_log2_self rfl rfl

/-- The unit in which a ratio is rounded, and the ratio measured by it: it has 53 bits in front of
the point, or fewer if the unit is the least one. -/
theorem exists_unit (num_pos : 0 < num) (den_pos : 0 < den) : ∃ (unit : ℕ) (a b : ℕ), 0 < b ∧
    ratioBits num den = min (unit * 2 ^ 52 + roundEven a b) infinityBits ∧
      (num : ℚ) / den * 2 ^ 1074 = (a : ℚ) / b * 2 ^ unit ∧ (a : ℚ) / b < 2 ^ 53 ∧
        (unit = 0 ∨ (2 : ℚ) ^ 52 ≤ (a : ℚ) / b) := by
  obtain ⟨low, high⟩ := binaryExponent_spec num_pos den_pos
  have den_pos' : (0 : ℚ) < den := by exact_mod_cast den_pos
  have power (j : ℤ) : (0 : ℚ) < 2 ^ j := by positivity
  generalize found : max (binaryExponent num den - 52) (-1074) = k
  have scaled : ((num * twoTo (-k).toNat : ℕ) : ℚ) / (den * twoTo k.toNat : ℕ) =
      (num : ℚ) / den / 2 ^ k := by
    have whole := zpow_eq_div 2 (by decide) k
    have num_eq : ((num * twoTo (-k).toNat : ℕ) : ℚ) = num * 2 ^ (-k).toNat := by
      exact_mod_cast rfl
    have den_eq : ((den * twoTo k.toNat : ℕ) : ℚ) = den * 2 ^ k.toNat := by exact_mod_cast rfl
    rw [num_eq, den_eq]
    push_cast at whole
    rw [whole]
    field_simp
  refine ⟨(k + 1074).toNat, num * twoTo (-k).toNat, den * twoTo k.toNat, ?_, ?_, ?_, ?_, ?_⟩
  · exact Nat.mul_pos den_pos (Nat.two_pow_pos _)
  · unfold ratioBits
    rw [if_neg num_pos.ne', found]
    rfl
  · have unit : (2 : ℚ) ^ (k + 1074).toNat = 2 ^ k * 2 ^ 1074 := by
      rw [← zpow_natCast, ← zpow_natCast, ← zpow_add₀ (by norm_num)]
      congr 1
      omega
    rw [scaled, unit, ← mul_assoc, div_mul_cancel₀ _ (power k).ne']
  · rw [scaled, div_lt_iff₀ (power k), ← zpow_natCast, ← zpow_add₀ (by norm_num)]
    exact high.trans_le (zpow_le_zpow_right₀ (by norm_num) (by omega))
  · rw [scaled, le_div_iff₀ (power k), ← zpow_natCast, ← zpow_add₀ (by norm_num)]
    rcases Int.lt_or_eq_of_le (le_max_right (binaryExponent num den - 52) (-1074)) with more | least
    · refine .inr (le_trans ?_ low)
      exact zpow_le_zpow_right₀ (by norm_num) (by omega)
    · exact .inl (by omega)

/-- A ratio, so far as it is not too great, is rounded to the point whose stretch it is in. -/
theorem ratioBits_covers (den_pos : 0 < den) (finite : ratioBits num den < infinityBits) :
    Covers (ratioBits num den) ((num : ℚ) / den * 2 ^ 1074) := by
  rcases Nat.eq_zero_or_pos num with rfl | num_pos
  · have zero : ratioBits 0 den = 0 := rfl
    have first : steps 0 = 0 ∧ steps 1 = 1 := by decide
    rw [zero]
    exact Covers.of_down (by simp [first.1]) (.inl (by simp [first.1, first.2]))
  obtain ⟨unit, a, b, positive, bits, distance, small, leading⟩ := exists_unit num_pos den_pos
  obtain ⟨floor, low, high, rounded⟩ := roundEven_cases a positive
  have small' : floor < 2 ^ 53 := by exact_mod_cast low.trans_lt small
  have leading' : unit = 0 ∨ 2 ^ 52 ≤ floor := leading.imp_right fun wide => by
    have : 2 ^ 52 < floor + 1 := by exact_mod_cast wide.trans_lt high
    omega
  obtain ⟨unit_eq, coefficient_eq⟩ := parts_eq small' leading'
  have here : (steps (unit * 2 ^ 52 + floor) : ℚ) = floor * 2 ^ unit := by
    rw [steps, unit_eq, coefficient_eq]
    push_cast
    rfl
  have next : (steps (unit * 2 ^ 52 + floor + 1) : ℚ) = (floor + 1) * 2 ^ unit := by
    rw [steps_succ, unit_eq, Nat.cast_add, here, Nat.cast_pow, Nat.cast_ofNat, add_mul, one_mul]
  have power : (0 : ℚ) < 2 ^ unit := by positivity
  have parity : (unit * 2 ^ 52 + floor) % 2 = floor % 2 := by omega
  rw [bits] at finite ⊢
  rw [min_eq_left (by omega), distance]
  -- A coefficient that is rounded up to one bit more has the bits of the next point, too.
  rcases rounded with ⟨down, half⟩ | ⟨up, half⟩
  · rw [down]
    refine Covers.of_down (by rw [here]; gcongr) ?_
    rw [here, next, parity]
    refine half.imp (fun less => ?_) (And.imp_left fun same => ?_)
    · nlinarith
    · linear_combination 2 ^ unit * same
  · rw [up, ← Nat.add_assoc]
    refine Covers.of_up (by rw [next]; gcongr) ?_
    rw [here, next, parity]
    refine half.imp (fun less => ?_) (And.imp_left fun same => ?_)
    · nlinarith
    · linear_combination 2 ^ unit * same

/-- The number that a finite double is. -/
def value? (x : Binary64) : Option ℚ :=
  match x.meaning with
  | .finite negative coefficient exponent =>
    some ((if negative then -1 else 1) * (coefficient * 2 ^ exponent))
  | _ => none

/-- The double is finite and, of all numbers that finite doubles are and the power of two behind the
greatest of them, its own is the nearest, where one of two that are equally near has a last bit of
zero. -/
def NearestTo (x : Binary64) (number : ℚ) : Prop :=
  ∃ value, x.value? = some value ∧
    ∀ other, (other = 2 ^ 1024 ∨ ∃ y : Binary64, y.value? = some other) → other ≠ value →
      |number - value| < |number - other| ∨
        |number - value| = |number - other| ∧ x.bits.toNat % 2 = 0

variable {x y : Binary64} {number other : ℚ}

theorem value?_of_lt (finite : x.bits.toNat < infinityBits) :
    x.value? = some (numberAt x.bits.toNat) := by
  rw [value?, meaning_of_lt finite, numberAt_eq]
  simp

theorem of_meaning_finite {negative : Bool} {coefficient : ℕ} {exponent : ℤ}
    (found : y.meaning = .finite negative coefficient exponent) :
    y.bits.toNat / 2 ^ 52 % 2 ^ 11 ≠ 2047 ∧ negative = decide (2 ^ 63 ≤ y.bits.toNat) := by
  unfold meaning at found
  dsimp only at found
  split at found
  · split at found <;> cases found
  · rename_i other
    refine ⟨other, ?_⟩
    split at found <;> exact (Meaning.finite.inj found).1.symm

theorem lt_of_value? (unsigned : y.bits.toNat < 2 ^ 63) (found : y.value? = some other) :
    y.bits.toNat < infinityBits := by
  unfold value? at found
  split at found
  · rename_i negative coefficient exponent denoted
    obtain ⟨biased, -⟩ := of_meaning_finite denoted
    change y.bits.toNat < 2047 * 2 ^ 52
    omega
  · cases found

/-- A double with a sign is not positive. -/
theorem lt_or_nonpos_of_value? (found : y.value? = some other) :
    y.bits.toNat < infinityBits ∨ other ≤ 0 := by
  rcases Nat.lt_or_ge y.bits.toNat (2 ^ 63) with unsigned | signed
  · exact .inl (lt_of_value? unsigned found)
  · right
    unfold value? at found
    split at found
    · rename_i negative coefficient exponent denoted
      obtain ⟨-, sign⟩ := of_meaning_finite denoted
      have size : (0 : ℚ) ≤ coefficient * 2 ^ exponent := by positivity
      obtain rfl := Option.some.inj found
      rw [if_pos (sign.trans (decide_eq_true signed))]
      linarith
    · cases found

theorem numberAt_infinityBits : numberAt infinityBits = 2 ^ 1024 := by
  have parts : infinityBits = 2046 * 2 ^ 52 + 2 ^ 52 := rfl
  rw [parts, numberAt_of_parts (by decide) (.inr le_rfl), Nat.cast_pow, Nat.cast_ofNat,
    ← zpow_natCast, ← zpow_add₀ (by norm_num)]
  rfl

/-- The points up to the power of two behind the greatest double are that power and numbers that
finite doubles are. -/
theorem numberAt_of_le {bits : ℕ} (inside : bits ≤ infinityBits) :
    numberAt bits = 2 ^ 1024 ∨ ∃ y : Binary64, y.value? = some (numberAt bits) := by
  rcases Nat.lt_or_eq_of_le inside with less | rfl
  · have word : (bits.toUInt64).toNat = bits := by
      apply UInt64.toNat_ofNat_of_lt
      exact less.trans (by decide)
    refine .inr ⟨⟨bits.toUInt64⟩, ?_⟩
    rw [value?_of_lt, word]
    rwa [word]
  · exact .inl numberAt_infinityBits

theorem closest_iff {bits : ℕ} : Closest bits (number * 2 ^ 1074) ↔
    ∀ other ≤ infinityBits, numberAt other ≠ numberAt bits →
      |number - numberAt bits| < |number - numberAt other| ∨
        |number - numberAt bits| = |number - numberAt other| ∧ bits % 2 = 0 := by
  have unit : (0 : ℚ) < 2 ^ 1074 := by positivity
  have scaled (point : ℕ) :
      |number * 2 ^ 1074 - steps point| = |number - numberAt point| * 2 ^ 1074 := by
    rw [← abs_of_pos unit, ← abs_mul, abs_of_pos unit, sub_mul, numberAt,
      div_mul_cancel₀ _ unit.ne']
  unfold Closest
  simp only [scaled, mul_lt_mul_iff_left₀ unit, mul_left_inj' unit.ne',
    numberAt_strictMono.injective.ne_iff]

theorem nearestTo_iff (finite : x.bits.toNat < infinityBits) (positive : 0 ≤ number) :
    x.NearestTo number ↔ Covers x.bits.toNat (number * 2 ^ 1074) := by
  rw [← closest_iff_covers finite, closest_iff]
  constructor
  · rintro ⟨value, same, nearest⟩ other inside different
    rw [value?_of_lt finite] at same
    obtain rfl := Option.some.inj same
    exact nearest _ (numberAt_of_le inside) different
  · intro closest
    refine ⟨_, value?_of_lt finite, ?_⟩
    rintro other (rfl | ⟨y, found⟩) different
    · rw [← numberAt_infinityBits] at different ⊢
      exact closest _ le_rfl different
    rcases lt_or_nonpos_of_value? found with less | nonpos
    · rw [value?_of_lt less] at found
      obtain rfl := Option.some.inj found
      exact closest _ less.le different
    · have origin := closest 0 (Nat.zero_le _)
      rw [numberAt_zero] at origin
      rcases eq_or_lt_of_le nonpos with rfl | negative
      · exact origin different
      · -- No negative number is nearer than zero, and zero is no nearer than the double.
        have noNearer : |number - numberAt x.bits.toNat| ≤ |number - 0| := by
          by_cases here : (0 : ℚ) = numberAt x.bits.toNat
          · rw [← here]
          · exact (origin here).elim le_of_lt fun same => same.1.le
        rw [sub_zero, abs_of_nonneg positive] at noNearer
        have further : |number - other| = number - other := abs_of_nonneg (by linarith)
        exact .inl (by linarith)

theorem ofRatio_nearestTo (den_pos : 0 < den) (finite : ratioBits num den < infinityBits) :
    (ofRatio num den).bits.toNat = ratioBits num den ∧
      (ofRatio num den).NearestTo ((num : ℚ) / den) := by
  have word : (ofRatio num den).bits.toNat = ratioBits num den := by
    apply UInt64.toNat_ofNat_of_lt
    exact finite.trans (by decide)
  refine ⟨word, ?_⟩
  rw [nearestTo_iff (by rwa [word]) (by positivity), word]
  exact ratioBits_covers den_pos finite

end Binary64
end LoadSeries

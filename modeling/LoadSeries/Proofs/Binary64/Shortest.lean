import LoadSeries.Proofs.Binary64.Candidate
import LoadSeries.Proofs.Text.Numerals

/-!
The shortest decimals of doubles. Place by place, from the leading digit on, candidates are looked
for; the first place with one has the decimal of fewest digits that is read as the double, and of
those of so many digits the nearest.
-/
namespace LoadSeries.Binary64
open Text

/-- The decimal is read as the double, no decimal that is has fewer digits, and of those of no more
digits none is nearer to the double, and none that is as near is greater. -/
structure IsShortest (x : Binary64) (decimal : Scientific) : Prop where
  reads : x.NearestTo decimal.value
  fewest : ∀ other : Scientific, x.NearestTo other.value →
    (digits decimal.coefficient).length ≤ (digits other.coefficient).length
  best : ∀ other : Scientific, x.NearestTo other.value →
    (digits other.coefficient).length ≤ (digits decimal.coefficient).length →
      ∀ number ∈ x.value?, Approximates number decimal.value other.value

section Search

variable {coefficient fuel count : ℕ} {exponent leading : ℤ}

theorem search_eq (within : ∃ j, count ≤ j ∧ j < count + fuel ∧
      ∃ decimal, candidate? coefficient exponent (leading - j) = some decimal) :
    ∃ (j : ℕ) (decimal : Scientific), j < count + fuel ∧
      (∀ i : ℕ, count ≤ i → i < j → candidate? coefficient exponent (leading - i) = none) ∧
        candidate? coefficient exponent (leading - j) = some decimal ∧
          search coefficient exponent leading fuel count = carry decimal := by
  induction fuel generalizing count with
  | zero =>
    obtain ⟨j, low, high, -⟩ := within
    omega
  | succ fuel ih =>
    rw [search]
    cases here : candidate? coefficient exponent (leading - count) with
    | some decimal =>
      exact ⟨count, decimal, by omega, fun i low high => absurd high (Nat.not_lt.mpr low), here,
        rfl⟩
    | none =>
      obtain ⟨j, low, high, decimal, found⟩ := within
      have later : count ≠ j := by
        rintro rfl
        rw [here] at found
        cases found
      have later' : count + 1 ≤ j := by omega
      obtain ⟨first, decimal', small, before, found', result⟩ :=
        ih ⟨j, later', by omega, decimal, found⟩
      refine ⟨first, decimal', by omega, fun i low high => ?_, found', result⟩
      rcases Nat.lt_or_eq_of_le low with further | rfl
      · exact before i further high
      · exact here

theorem value_carry (decimal : Scientific) : (carry decimal).value = decimal.value := by
  unfold carry
  split
  · rename_i ten
    rw [Scientific.value, Scientific.value, ten, zpow_add_one₀ (by norm_num)]
    push_cast
    ring
  · rfl

theorem exists_length_digits (n : ℕ) : ∃ k, (digits n).length = k + 1 :=
  Nat.exists_eq_succ_of_ne_zero (List.length_pos_iff.mpr (digits_ne_nil n)).ne'

theorem decimalExponent_spec {num den : ℕ} (num_pos : 0 < num) (den_pos : 0 < den) :
    (10 : ℚ) ^ decimalExponent num den ≤ (num : ℚ) / den ∧
      (num : ℚ) / den < 10 ^ (decimalExponent num den + 1) := by
  obtain ⟨a, a_eq⟩ := exists_length_digits num
  obtain ⟨b, b_eq⟩ := exists_length_digits den
  have num_lt := lt_pow_length_digits num
  have den_lt := lt_pow_length_digits den
  rw [a_eq] at num_lt
  rw [b_eq] at den_lt
  refine exponent_bounds (by decide : 1 < 10) (pow_le_of_length_digits num_pos a_eq.ge) num_lt
    (pow_le_of_length_digits den_pos b_eq.ge) den_lt (k := (a : ℤ) - b) rfl ?_
  have same : ((digits num).length : ℤ) - (digits den).length = a - b := by omega
  unfold decimalExponent
  rw [same]
  rfl

def leadingAt (bits : ℕ) : ℤ :=
  decimalExponent (coefficientAt bits * twoTo (unitAt bits - 1074 : ℤ).toNat)
    (twoTo (-(unitAt bits - 1074 : ℤ)).toNat)

theorem leadingAt_spec {bits : ℕ} (positive : 0 < bits) :
    10 ^ leadingAt bits ≤ numberAt bits ∧ numberAt bits < 10 ^ (leadingAt bits + 1) := by
  have two (n : ℕ) : (twoTo n : ℚ) = 2 ^ n := by exact_mod_cast rfl
  have number : numberAt bits =
      (coefficientAt bits * twoTo (unitAt bits - 1074 : ℤ).toNat : ℕ) /
        (twoTo (-(unitAt bits - 1074 : ℤ)).toNat : ℕ) := by
    have power := zpow_eq_div 2 (by decide) (unitAt bits - 1074)
    rw [Nat.cast_ofNat] at power
    rw [numberAt_eq, Nat.cast_mul, two, two, power, mul_div_assoc]
  rw [number]
  exact decimalExponent_spec (Nat.mul_pos (coefficientAt_pos positive) (Nat.two_pow_pos _))
    (Nat.two_pow_pos _)

end Search

section Fewest

variable {bits : ℕ} {leading : ℤ}

/-- A decimal of so many digits that is read as the double is a multiple of the place of the last of
so many digits of the double, or the power of ten of the first place is no worse. -/
theorem exists_multiple (low : 10 ^ leading ≤ numberAt bits) {other : Scientific} {k : ℕ}
    (short : (digits other.coefficient).length ≤ k + 1) (reads : Reads bits other) :
    ∃ n, Reads bits ⟨n, leading - k⟩ ∧
      Approximates (numberAt bits) (Scientific.value ⟨n, leading - k⟩) other.value := by
  rcases le_or_gt (leading - k) other.exponent with coarse | fine
  · have same : Scientific.value
        ⟨other.coefficient * 10 ^ (other.exponent - (leading - k)).toNat, leading - k⟩ =
          other.value := by
      rw [Scientific.value_mk, Nat.cast_mul, Nat.cast_pow, Nat.cast_ofNat, mul_assoc,
        ← zpow_natCast, ← zpow_add₀ (by norm_num), Scientific.value]
      congr 2
      omega
    refine ⟨other.coefficient * 10 ^ (other.exponent - (leading - k)).toNat, ?_, ?_⟩
    · rwa [Reads, same]
    · rw [same]
      exact .refl ..
  · have power : Scientific.value ⟨10 ^ k, leading - k⟩ = 10 ^ leading := by
      rw [Scientific.value_mk, Nat.cast_pow, Nat.cast_ofNat, ← zpow_natCast,
        ← zpow_add₀ (by norm_num)]
      congr 1
      omega
    have below : other.value ≤ 10 ^ leading := by
      have digits : (other.coefficient : ℚ) ≤ 10 ^ (k + 1) := by
        exact_mod_cast (lt_pow_length_digits _).le.trans (Nat.pow_le_pow_right (by decide) short)
      calc other.value ≤ 10 ^ (k + 1) * 10 ^ (leading - k - 1) :=
            mul_le_mul digits (zpow_le_zpow_right₀ (by norm_num) (by omega)) (by positivity)
              (by positivity)
        _ = 10 ^ leading := by
            rw [← zpow_natCast, ← zpow_add₀ (by norm_num)]
            congr 1
            omega
    refine ⟨10 ^ k, reads.of_below ?_ ?_, ?_⟩
    · rwa [power]
    · rwa [power]
    · rw [power]
      exact approximates_of_le low below

/-- Where none was chosen before, what is chosen has no more digits than places were tried. -/
theorem length_digits_carry (high : numberAt bits < 10 ^ (leading + 1)) {j : ℕ}
    {decimal : Scientific} (chosen : Chosen bits (leading - j) decimal)
    (before : ∀ i < j, ∀ n, ¬ Reads bits ⟨n, leading - i⟩) :
    (digits (carry decimal).coefficient).length ≤ j + 1 := by
  obtain ⟨n, place⟩ := decimal
  obtain ⟨rfl, reads, near, -⟩ := chosen
  have power : (0 : ℚ) < 10 ^ (leading - j) := by positivity
  have top : (10 : ℚ) ^ (leading + 1) = 10 ^ (j + 1) * 10 ^ (leading - j) := by
    rw [← zpow_natCast, ← zpow_add₀ (by norm_num)]
    congr 1
    push_cast
    ring
  have most : n ≤ 10 ^ (j + 1) := by
    have less : (n : ℚ) < (10 ^ (j + 1) : ℕ) + 1 := by
      refine lt_of_mul_lt_mul_right ?_ power.le
      rw [Scientific.value_mk] at near
      push_cast
      linarith
    exact Nat.lt_succ_iff.mp (by exact_mod_cast less)
  unfold carry
  split
  · have one : (digits 1).length ≤ 1 := length_digits_le (by decide)
    exact one.trans (by omega)
  · rename_i other
    rcases Nat.lt_or_eq_of_le most with less | rfl
    · exact length_digits_le less
    · rcases j with - | j
      · exact absurd rfl other
      · -- A power of ten would have been chosen at the first place.
        refine absurd ?_ (before 0 (by omega) 10)
        have same : Scientific.value ⟨10, leading - (0 : ℕ)⟩ =
            Scientific.value ⟨10 ^ (j + 1 + 1), leading - (j + 1 : ℕ)⟩ := by
          rw [Scientific.value_mk, Scientific.value_mk, Nat.cast_pow, Nat.cast_ofNat, ← top,
            zpow_add_one₀ (by norm_num), mul_comm, Nat.cast_zero, sub_zero]
        rwa [Reads, same]

end Fewest

theorem isShortest_zero {x : Binary64} (zero : x.bits.toNat = 0) : x.IsShortest ⟨0, 0⟩ := by
  have finite : x.bits.toNat < infinityBits := by
    rw [zero]
    decide
  have value : Scientific.value ⟨0, 0⟩ = 0 := by simp [Scientific.value]
  have length : (digits 0).length ≤ 1 := length_digits_le (by decide)
  refine ⟨?_, fun other reads => ?_, fun other reads short number same => ?_⟩
  · rw [nearestTo_iff finite (Scientific.value_nonneg _), zero, value, zero_mul]
    have self := Covers.self 0
    rwa [Nat.cast_eq_zero.mpr (rfl : steps 0 = 0)] at self
  · exact length.trans (List.length_pos_iff.mpr (digits_ne_nil _))
  · rw [value?_of_lt finite, zero, numberAt_zero] at same
    obtain rfl := Option.some.inj same
    rw [value]
    rcases eq_or_lt_of_le other.value_nonneg with zero' | positive
    · rw [← zero']
      exact .refl ..
    · left
      rw [sub_zero, abs_zero, zero_sub, abs_neg, abs_of_pos positive]
      exact positive

/-- What the search finds: the choice at the first place that has one, within seventeen digits. -/
theorem exists_chosen {bits : ℕ} (positive : 0 < bits) : ∃ j : ℕ, j < 17 ∧ ∃ decimal,
    Chosen bits (leadingAt bits - j) decimal ∧
      (∀ i : ℕ, i < j → ∀ n, ¬ Reads bits ⟨n, leadingAt bits - i⟩) ∧
        shortest (coefficientAt bits) (unitAt bits - 1074) = carry decimal := by
  have fine : (10 : ℚ) ^ (leadingAt bits - (16 : ℕ)) * 10 ^ 16 ≤ numberAt bits := by
    have same : (10 : ℚ) ^ (leadingAt bits - (16 : ℕ)) * 10 ^ 16 = 10 ^ leadingAt bits := by
      rw [← zpow_natCast (10 : ℚ) 16, ← zpow_add₀ (by norm_num), sub_add_cancel]
    rw [same]
    exact (leadingAt_spec positive).1
  have within : 16 < 0 + 17 := by decide
  obtain ⟨j, decimal, small, before, found, result⟩ :=
    search_eq ⟨16, Nat.zero_le 16, within, exists_candidate? positive fine⟩
  refine ⟨j, by omega, decimal, chosen_of_candidate? positive found, fun i less =>
    not_reads_of_candidate? positive (before i (Nat.zero_le i) less), ?_⟩
  rw [shortest, if_neg (coefficientAt_pos positive).ne', ← result]
  rfl

theorem isShortest_shortest {x : Binary64} (finite : x.bits.toNat < infinityBits) :
    x.IsShortest (shortest (coefficientAt x.bits.toNat) (unitAt x.bits.toNat - 1074)) := by
  rcases Nat.eq_zero_or_pos x.bits.toNat with zero | positive
  · rw [zero]
    exact isShortest_zero zero
  have reads_iff (decimal : Scientific) :
      x.NearestTo decimal.value ↔ Reads x.bits.toNat decimal :=
    nearestTo_iff finite decimal.value_nonneg
  have value := value?_of_lt finite
  generalize x.bits.toNat = bits at positive reads_iff value ⊢
  obtain ⟨low, high⟩ := leadingAt_spec positive
  obtain ⟨j, -, decimal, chosen, before, result⟩ := exists_chosen positive
  have length := length_digits_carry high chosen before
  rw [result]
  refine ⟨?_, fun other reads => ?_, fun other reads short number same => ?_⟩
  · rw [reads_iff, Reads, value_carry]
    exact chosen.reads
  · -- A decimal of fewer digits would have been chosen at an earlier place.
    rw [reads_iff] at reads
    by_contra fewer
    have some := List.length_pos_iff.mpr (digits_ne_nil other.coefficient)
    obtain ⟨n, multiple, -⟩ := exists_multiple low
      (k := (digits other.coefficient).length - 1) (by omega) reads
    exact before _ (by omega) n multiple
  · rw [reads_iff] at reads
    rw [value] at same
    obtain rfl := Option.some.inj same
    obtain ⟨n, multiple, better⟩ := exists_multiple low (short.trans length) reads
    rw [value_carry]
    exact (chosen.best n multiple).trans better

theorem length_digits_shortest (bits : ℕ) :
    (digits (shortest (coefficientAt bits) (unitAt bits - 1074)).coefficient).length ≤ 17 := by
  rcases Nat.eq_zero_or_pos bits with rfl | positive
  · exact length_digits_le (by decide)
  · obtain ⟨j, small, decimal, chosen, before, result⟩ := exists_chosen positive
    have length := length_digits_carry (leadingAt_spec positive).2 chosen before
    rw [result]
    omega

theorem text_of_meaning {x : Binary64} {coefficient : ℕ} {exponent : ℤ}
    (found : x.meaning = .finite false coefficient exponent) :
    x.text = (shortest coefficient exponent).positional := by
  rw [text, found]
  rfl

end LoadSeries.Binary64

import LoadSeries.Binary64.Shortest
import LoadSeries.Proofs.Binary64.Nearest

/-!
Decimals that are read as a given double. They lie between two ends around it; at each decimal place
the multiples next to the double are tried, and the better one of those that are read as it is
chosen.
-/
namespace LoadSeries

def Scientific.value (x : Scientific) : ℚ := x.coefficient * 10 ^ x.exponent

theorem Scientific.value_mk (coefficient : ℕ) (exponent : ℤ) :
    value ⟨coefficient, exponent⟩ = coefficient * 10 ^ exponent := rfl

theorem Scientific.value_nonneg (x : Scientific) : 0 ≤ x.value := by
  unfold value
  positivity

namespace Binary64

/-- The decimal is one of the numbers that are rounded to the point. -/
def Reads (bits : ℕ) (decimal : Scientific) : Prop := Covers bits (decimal.value * 2 ^ 1074)

section Ends

variable {bits : ℕ} {decimal : Scientific}

theorem coefficientAt_pos (positive : 0 < bits) : 0 < coefficientAt bits := by
  unfold coefficientAt unitAt
  omega

theorem coefficientAt_lt (bits : ℕ) : coefficientAt bits < 2 ^ 53 := by
  unfold coefficientAt unitAt
  omega

theorem coefficientAt_mod_two (bits : ℕ) : coefficientAt bits % 2 = bits % 2 := by
  unfold coefficientAt unitAt
  omega

/-- A quarter of the distance from a point to the next one. -/
def quarterAt (bits : ℕ) : ℚ := 2 ^ ((unitAt bits : ℤ) - 1074 - 2)

def gapAt (bits : ℕ) : ℕ := gapBelow (coefficientAt bits) (unitAt bits - 1074)

theorem quarterAt_pos (bits : ℕ) : 0 < quarterAt bits := by
  unfold quarterAt
  positivity

theorem numberAt_quarters (bits : ℕ) :
    numberAt bits = (4 * coefficientAt bits : ℕ) * quarterAt bits := by
  rw [numberAt_eq, quarterAt, zpow_sub₀ (by norm_num) _ 2]
  push_cast
  ring

theorem unit_quarters (bits : ℕ) : (2 : ℚ) ^ unitAt bits = 4 * quarterAt bits * 2 ^ 1074 := by
  have four : (4 : ℚ) = 2 ^ (2 : ℤ) := by norm_num
  rw [quarterAt, four, ← zpow_natCast, ← zpow_natCast, ← zpow_add₀ (by norm_num),
    ← zpow_add₀ (by norm_num)]
  refine congrArg (HPow.hPow (2 : ℚ)) ?_
  omega

theorem gapAt_le (positive : 0 < bits) : gapAt bits ≤ 4 * coefficientAt bits := by
  have least := coefficientAt_pos positive
  unfold gapAt gapBelow
  split <;> omega

/-- Below a power of two points are half as far apart. -/
theorem gapAt_eq (below : ℕ) :
    (2 : ℚ) * 2 ^ unitAt below = gapAt (below + 1) * 2 ^ unitAt (below + 1) := by
  have leading : twoTo 52 = 2 ^ 52 := rfl
  unfold gapAt gapBelow
  rw [leading]
  split
  · rename_i power
    have unit : unitAt (below + 1) = unitAt below + 1 := by
      unfold coefficientAt unitAt at *
      omega
    rw [unit, pow_succ]
    push_cast
    ring
  · rename_i other
    have unit : unitAt (below + 1) = unitAt below := by
      unfold coefficientAt unitAt at *
      omega
    rw [unit]
    push_cast
    ring

/-- The decimals that are read as a double lie between two ends, which are whole numbers of quarters
of its unit, and count if its coefficient is even. -/
theorem reads_iff (positive : 0 < bits) (decimal : Scientific) :
    let lower : ℕ := 4 * coefficientAt bits - gapAt bits
    let upper : ℕ := 4 * coefficientAt bits + 2
    Reads bits decimal ↔
      (lower * quarterAt bits < decimal.value ∨
        lower * quarterAt bits = decimal.value ∧ coefficientAt bits % 2 = 0) ∧
      (decimal.value < upper * quarterAt bits ∨
        decimal.value = upper * quarterAt bits ∧ coefficientAt bits % 2 = 0) := by
  intro lower upper
  obtain ⟨below, rfl⟩ : ∃ below, bits = below + 1 := ⟨bits - 1, by omega⟩
  have lower_eq : (lower : ℚ) = 4 * coefficientAt (below + 1) - gapAt (below + 1) := by
    simp only [lower, Nat.cast_sub (gapAt_le positive), Nat.cast_mul, Nat.cast_ofNat]
  have upper_eq : (upper : ℚ) = 4 * coefficientAt (below + 1) + 2 := by
    simp only [upper, Nat.cast_add, Nat.cast_mul, Nat.cast_ofNat]
  have here : (steps (below + 1) : ℚ) =
      coefficientAt (below + 1) * 2 ^ unitAt (below + 1) := by
    rw [steps, Nat.cast_mul, Nat.cast_pow, Nat.cast_ofNat]
  have next : (steps (below + 1 + 1) : ℚ) = steps (below + 1) + 2 ^ unitAt (below + 1) := by
    exact_mod_cast steps_succ (below + 1)
  have last : (steps (below + 1) : ℚ) = steps below + 2 ^ unitAt below := by
    exact_mod_cast steps_succ below
  have gap := gapAt_eq below
  have scale : (0 : ℚ) < 2 ^ 1074 := by positivity
  rw [Reads, coefficientAt_mod_two]
  rw [unit_quarters (below + 1)] at here next gap
  generalize quarterAt (below + 1) = quarter at *
  generalize (2 : ℚ) ^ 1074 = whole at *
  have middle : (steps below + steps (below + 1) : ℚ) = 2 * (lower * quarter * whole) := by
    rw [lower_eq]
    linear_combination here * 2 - last - gap / 2
  have middle' : (steps (below + 1) + steps (below + 1 + 1) : ℚ) =
      2 * (upper * quarter * whole) := by
    rw [upper_eq]
    linear_combination here * 2 + next
  have two : (0 : ℚ) < 2 := by norm_num
  have less (a b : ℚ) : 2 * (a * whole) < 2 * (b * whole) ↔ a < b := by
    rw [mul_lt_mul_iff_right₀ two, mul_lt_mul_iff_left₀ scale]
  have same (a b : ℚ) : 2 * (a * whole) = 2 * (b * whole) ↔ a = b := by
    rw [mul_right_inj' two.ne', mul_left_inj' scale.ne']
  rw [← less (lower * quarter), ← same (lower * quarter), ← less decimal.value,
    ← same decimal.value, ← middle, ← middle']
  constructor
  · rintro ⟨behind, before⟩
    exact ⟨behind below rfl, before⟩
  · rintro ⟨behind, before⟩
    refine ⟨fun least equal => ?_, before⟩
    obtain rfl := Nat.succ_inj.mp equal
    exact behind

namespace Reads

variable {low high : Scientific}

theorem of_above (reads : Reads bits high) (above : numberAt bits ≤ decimal.value)
    (below : decimal.value ≤ high.value) : Reads bits decimal := by
  refine Covers.of_between (Covers.self bits) reads ?_ (by gcongr)
  rwa [← div_le_iff₀ (by positivity)]

theorem of_below (reads : Reads bits low) (above : low.value ≤ decimal.value)
    (below : decimal.value ≤ numberAt bits) : Reads bits decimal := by
  refine Covers.of_between reads (Covers.self bits) (by gcongr) ?_
  rwa [← le_div_iff₀ (by positivity)]

theorem le_next (reads : Reads bits decimal) : decimal.value ≤ numberAt (bits + 1) :=
  Covers.le_next reads

end Reads

end Ends

/-- One number is as good an approximation as another: it is nearer, or as near and no smaller. -/
def Approximates (number first second : ℚ) : Prop :=
  |number - first| < |number - second| ∨ |number - first| = |number - second| ∧ second ≤ first

section Approximates

variable {number first second third : ℚ}

theorem Approximates.refl (number first : ℚ) : Approximates number first first := .inr ⟨rfl, le_rfl⟩

theorem Approximates.trans (better : Approximates number first second)
    (better' : Approximates number second third) : Approximates number first third := by
  rcases better with less | ⟨same, order⟩
  · exact .inl (better'.elim less.trans fun same => same.1 ▸ less)
  · rw [Approximates, same]
    exact better'.imp_right fun next => ⟨next.1, next.2.trans order⟩

theorem approximates_of_le (below : first ≤ number) (further : second ≤ first) :
    Approximates number first second := by
  rw [Approximates, abs_of_nonneg (by linarith), abs_of_nonneg (by linarith)]
  rcases eq_or_lt_of_le further with rfl | less
  · exact .inr ⟨rfl, le_rfl⟩
  · exact .inl (by linarith)

theorem approximates_of_ge (above : number < first) (further : first ≤ second) :
    Approximates number first second := by
  rw [Approximates, abs_of_nonpos (by linarith), abs_of_nonpos (by linarith)]
  rcases eq_or_lt_of_le further with rfl | less
  · exact .inr ⟨rfl, le_rfl⟩
  · exact .inl (by linarith)

end Approximates

section Place

variable {bits : ℕ} {place : ℤ}

theorem value_mono (place : ℤ) {m n : ℕ} (le : m ≤ n) :
    Scientific.value ⟨m, place⟩ ≤ Scientific.value ⟨n, place⟩ := by
  unfold Scientific.value
  gcongr

/-- Two whole numbers are in the same ratio as a quarter of a unit and a decimal place, so that
multiples of the ones are compared by multiples of the others. -/
structure Commensurate (quarter place : ℤ) (b d : ℕ) : Prop where
  positive : 0 < d
  less : ∀ m n : ℕ, m * b < n * d ↔ m * 2 ^ quarter < Scientific.value ⟨n, place⟩
  greater : ∀ m n : ℕ, n * d < m * b ↔ Scientific.value ⟨n, place⟩ < m * 2 ^ quarter

theorem commensurate (quarter place : ℤ) : Commensurate quarter place
    (twoTo quarter.toNat * tenTo (-place).toNat) (twoTo (-quarter).toNat * tenTo place.toNat) := by
  have two (n : ℕ) : (twoTo n : ℚ) = 2 ^ n := by exact_mod_cast rfl
  have ten (n : ℕ) : (tenTo n : ℚ) = 10 ^ n := by exact_mod_cast rfl
  have twos := zpow_eq_div 2 (by decide) quarter
  have tens := zpow_eq_div 10 (by decide) place
  rw [Nat.cast_ofNat] at twos tens
  have scale : (0 : ℚ) < 2 ^ (-quarter).toNat * 10 ^ (-place).toNat := by positivity
  have binary (m : ℕ) : ((m * (twoTo quarter.toNat * tenTo (-place).toNat) : ℕ) : ℚ) =
      2 ^ (-quarter).toNat * 10 ^ (-place).toNat * (m * 2 ^ quarter) := by
    rw [Nat.cast_mul, Nat.cast_mul, two, ten, twos]
    field_simp
  have decimal (n : ℕ) : ((n * (twoTo (-quarter).toNat * tenTo place.toNat) : ℕ) : ℚ) =
      2 ^ (-quarter).toNat * 10 ^ (-place).toNat * Scientific.value ⟨n, place⟩ := by
    rw [Nat.cast_mul, Nat.cast_mul, two, ten, Scientific.value, tens]
    field_simp
  refine ⟨Nat.mul_pos (Nat.two_pow_pos _) (Nat.pow_pos (by decide)), fun m n => ?_, fun m n => ?_⟩
  · rw [← Nat.cast_lt (α := ℚ), binary, decimal, mul_lt_mul_iff_right₀ scale]
  · rw [← Nat.cast_lt (α := ℚ), binary, decimal, mul_lt_mul_iff_right₀ scale]

theorem Commensurate.same {quarter place : ℤ} {b d : ℕ} (sizes : Commensurate quarter place b d)
    (m n : ℕ) : m * b = n * d ↔ m * 2 ^ quarter = Scientific.value ⟨n, place⟩ := by
  rw [le_antisymm_iff, le_antisymm_iff, ← not_lt, ← not_lt, sizes.less, sizes.greater, not_lt,
    not_lt]

theorem within_iff {closed : Bool} {lower point upper : ℕ} :
    within closed lower point upper = true ↔ (lower < point ∨ lower = point ∧ closed = true) ∧
      (point < upper ∨ point = upper ∧ closed = true) := by
  unfold within
  split <;> simp_all [Nat.le_iff_lt_or_eq]

open Classical in
/-- The candidate at a place in exact terms: one of the two multiples next to the double. -/
theorem candidate?_eq (positive : 0 < bits) (place : ℤ) : ∃ below : ℕ,
    Scientific.value ⟨below, place⟩ ≤ numberAt bits ∧
      numberAt bits < Scientific.value ⟨below + 1, place⟩ ∧
        candidate? (coefficientAt bits) (unitAt bits - 1074) place =
          if Reads bits ⟨below, place⟩ ∧ Reads bits ⟨below + 1, place⟩ then
            some ⟨if 2 * numberAt bits < Scientific.value ⟨2 * below + 1, place⟩ then below
              else below + 1, place⟩
          else if Reads bits ⟨below, place⟩ then some ⟨below, place⟩
          else if Reads bits ⟨below + 1, place⟩ then some ⟨below + 1, place⟩ else none := by
  have ends (n : ℕ) := reads_iff positive ⟨n, place⟩
  have number := numberAt_quarters bits
  have sizes := commensurate (unitAt bits - 1074 - 2) place
  unfold candidate?
  dsimp only [gapAt, quarterAt] at ends number ⊢
  generalize coefficientAt bits = c at ends number ⊢
  generalize (unitAt bits - 1074 - 2 : ℤ) = quarter at ends number sizes ⊢
  generalize twoTo quarter.toNat * tenTo (-place).toNat = b at sizes ⊢
  generalize twoTo (-quarter).toNat * tenTo place.toNat = d at sizes ⊢
  have fits (n : ℕ) : within (c % 2 == 0) ((4 * c - gapBelow c (unitAt bits - 1074)) * b) (n * d)
      ((4 * c + 2) * b) = true ↔ Reads bits ⟨n, place⟩ := by
    rw [within_iff, sizes.less, sizes.same, sizes.greater, eq_comm (a := n * d), sizes.same, ends,
      beq_iff_eq, eq_comm (b := ((4 * c + 2 : ℕ) : ℚ) * _)]
  have whole := Nat.div_add_mod' (4 * c * b) d
  have rest := Nat.mod_lt (4 * c * b) sizes.positive
  have half : 2 * (4 * c * b % d) < d ↔
      2 * numberAt bits < Scientific.value ⟨2 * (4 * c * b / d) + 1, place⟩ := by
    have twice : 2 * numberAt bits = (2 * (4 * c) : ℕ) * 2 ^ quarter := by
      rw [number]
      push_cast
      ring
    rw [twice, ← sizes.less, Nat.mul_assoc 2, Nat.add_mul, Nat.mul_assoc 2]
    omega
  refine ⟨4 * c * b / d, ?_, ?_, ?_⟩
  · rw [number, ← not_lt, ← sizes.less, not_lt]
    exact Nat.div_mul_le_self _ _
  · rw [number, ← sizes.less, Nat.add_mul]
    omega
  · simp only [Bool.and_eq_true, fits, half]

/-- What is chosen at a place: a multiple next to the double that is read as it, the best of all
multiples that are. -/
structure Chosen (bits : ℕ) (place : ℤ) (found : Scientific) : Prop where
  exponent : found.exponent = place
  reads : Reads bits found
  near : found.value ≤ numberAt bits + 10 ^ place
  best : ∀ n, Reads bits ⟨n, place⟩ →
    Approximates (numberAt bits) found.value (Scientific.value ⟨n, place⟩)

theorem value_succ (n : ℕ) (place : ℤ) :
    Scientific.value ⟨n + 1, place⟩ = Scientific.value ⟨n, place⟩ + 10 ^ place := by
  simp only [Scientific.value]
  push_cast
  ring

/-- If any multiple of a place is read as the double, so is one of the two next to it, which is
better. -/
theorem exists_neighbor {below n : ℕ} (low : Scientific.value ⟨below, place⟩ ≤ numberAt bits)
    (high : numberAt bits < Scientific.value ⟨below + 1, place⟩) (reads : Reads bits ⟨n, place⟩) :
    ∃ m, (m = below ∨ m = below + 1) ∧ Reads bits ⟨m, place⟩ ∧
      Approximates (numberAt bits) (Scientific.value ⟨m, place⟩) (Scientific.value ⟨n, place⟩) := by
  rcases Nat.lt_or_ge below n with greater | le
  · have further := value_mono place (Nat.succ_le_of_lt greater)
    exact ⟨below + 1, .inr rfl, reads.of_above high.le further, approximates_of_ge high further⟩
  · have further := value_mono place le
    exact ⟨below, .inl rfl, reads.of_below further low, approximates_of_le low further⟩

/-- It is enough that a multiple next to the double is better than the other one, if that is read as
the double too. -/
theorem chosen_of_better {below m : ℕ} (low : Scientific.value ⟨below, place⟩ ≤ numberAt bits)
    (high : numberAt bits < Scientific.value ⟨below + 1, place⟩)
    (neighbor : m = below ∨ m = below + 1) (reads : Reads bits ⟨m, place⟩)
    (better : ∀ k, k = below ∨ k = below + 1 → Reads bits ⟨k, place⟩ →
      Approximates (numberAt bits) (Scientific.value ⟨m, place⟩) (Scientific.value ⟨k, place⟩)) :
    Chosen bits place ⟨m, place⟩ := by
  have step := value_succ below place
  have power : (0 : ℚ) < 10 ^ place := by positivity
  refine ⟨rfl, reads, ?_, fun n reads' => ?_⟩
  · rcases neighbor with rfl | rfl <;> linarith
  · obtain ⟨k, next, here, further⟩ := exists_neighbor low high reads'
    exact (better k next here).trans further

theorem chosen_of_candidate? (positive : 0 < bits) {decimal : Scientific}
    (found : candidate? (coefficientAt bits) (unitAt bits - 1074) place = some decimal) :
    Chosen bits place decimal := by
  obtain ⟨below, low, high, exactly⟩ := candidate?_eq positive place
  have middle : Scientific.value ⟨2 * below + 1, place⟩ =
      Scientific.value ⟨below, place⟩ + Scientific.value ⟨below + 1, place⟩ := by
    simp only [Scientific.value]
    push_cast
    ring
  have toLow : |numberAt bits - Scientific.value ⟨below, place⟩| =
      numberAt bits - Scientific.value ⟨below, place⟩ := abs_of_nonneg (by linarith)
  have toHigh : |numberAt bits - Scientific.value ⟨below + 1, place⟩| =
      Scientific.value ⟨below + 1, place⟩ - numberAt bits := by
    rw [abs_sub_comm]
    exact abs_of_nonneg (by linarith)
  rw [exactly, middle] at found
  split_ifs at found with both nearer one other
  · obtain rfl := Option.some.inj found
    refine chosen_of_better low high (.inl rfl) both.1 ?_
    rintro k (rfl | rfl) -
    · exact .refl ..
    · exact .inl (by linarith)
  · obtain rfl := Option.some.inj found
    refine chosen_of_better low high (.inr rfl) both.2 ?_
    rintro k (rfl | rfl) -
    · rcases eq_or_lt_of_le (not_lt.mp nearer) with same | above
      · exact .inr ⟨by linarith, by linarith⟩
      · exact .inl (by linarith)
    · exact .refl ..
  · obtain rfl := Option.some.inj found
    refine chosen_of_better low high (.inl rfl) one ?_
    rintro k (rfl | rfl) reads
    · exact .refl ..
    · exact absurd ⟨one, reads⟩ both
  · obtain rfl := Option.some.inj found
    refine chosen_of_better low high (.inr rfl) other ?_
    rintro k (rfl | rfl) reads
    · exact absurd reads one
    · exact .refl ..

theorem not_reads_of_candidate? (positive : 0 < bits)
    (none : candidate? (coefficientAt bits) (unitAt bits - 1074) place = none) (n : ℕ) :
    ¬ Reads bits ⟨n, place⟩ := by
  intro reads
  obtain ⟨below, low, high, exactly⟩ := candidate?_eq positive place
  obtain ⟨m, neighbor, here, -⟩ := exists_neighbor low high reads
  rw [exactly] at none
  split_ifs at none with both one other
  rcases neighbor with rfl | rfl
  · exact one here
  · exact other here

/-- Two multiples of a place next to each other are not both outside of what is read as the double
if the place is below the seventeenth digit. -/
theorem exists_candidate? (positive : 0 < bits) (fine : 10 ^ place * 10 ^ 16 ≤ numberAt bits) :
    ∃ decimal, candidate? (coefficientAt bits) (unitAt bits - 1074) place = some decimal := by
  by_contra none
  obtain ⟨below, low, high, -⟩ := candidate?_eq positive place
  have outside := not_reads_of_candidate? positive
    (Option.eq_none_iff_forall_ne_some.mpr fun decimal found => none ⟨decimal, found⟩)
  have next := value_succ below place
  have number := numberAt_quarters bits
  have quarter := quarterAt_pos bits
  have gap := gapAt_le positive
  have underLow : Scientific.value ⟨below, place⟩ ≤
      (4 * coefficientAt bits - gapAt bits : ℕ) * quarterAt bits := by
    refine not_lt.mp fun inside => outside below ((reads_iff positive _).mpr ⟨.inl inside, .inl ?_⟩)
    push_cast at number ⊢
    linarith
  have aboveHigh : (4 * coefficientAt bits + 2 : ℕ) * quarterAt bits ≤
      Scientific.value ⟨below + 1, place⟩ := by
    refine not_lt.mp fun inside =>
      outside (below + 1) ((reads_iff positive _).mpr ⟨.inl ?_, .inl inside⟩)
    have less : ((4 * coefficientAt bits - gapAt bits : ℕ) : ℚ) ≤ (4 * coefficientAt bits : ℕ) := by
      exact_mod_cast Nat.sub_le _ _
    have scaled := mul_le_mul_of_nonneg_right less quarter.le
    linarith
  -- The place is as great as a quarter of the unit for each quarter between the ends.
  have wide : ((gapAt bits : ℚ) + 2) * 10 ^ 16 ≤ 4 * coefficientAt bits := by
    rw [Nat.cast_sub gap] at underLow
    push_cast at underLow aboveHigh number
    refine le_of_mul_le_mul_right ?_ quarter
    linarith
  have wide' : (gapAt bits + 2) * 10 ^ 16 ≤ 4 * coefficientAt bits := by exact_mod_cast wide
  have small := coefficientAt_lt bits
  have power : twoTo 52 = 2 ^ 52 := rfl
  unfold gapAt gapBelow at wide'
  split at wide' <;> omega

end Place

end Binary64
end LoadSeries

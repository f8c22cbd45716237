import LoadSeries.Binary64.Basic
import Mathlib

/-!
Doubles as points on a line. Without a sign they are numbered by their bits, in order, and the
distance from one to the next is a power of two; a number is rounded to the point nearest to it.
-/
namespace LoadSeries.Binary64

/-- The distance from a point to the next one, as a power of two, where that of the first is 1. -/
def unitAt (bits : ℕ) : ℕ := bits / 2 ^ 52 - 1

def coefficientAt (bits : ℕ) : ℕ := bits - unitAt bits * 2 ^ 52

/-- How far a point is from zero, measured by the least positive double. -/
def steps (bits : ℕ) : ℕ := coefficientAt bits * 2 ^ unitAt bits

/-- All of a double without a sign but its unit is in its coefficient. -/
theorem parts_eq {unit coefficient : ℕ} (small : coefficient < 2 ^ 53)
    (leading : unit = 0 ∨ 2 ^ 52 ≤ coefficient) :
    unitAt (unit * 2 ^ 52 + coefficient) = unit ∧
      coefficientAt (unit * 2 ^ 52 + coefficient) = coefficient := by
  have same : unitAt (unit * 2 ^ 52 + coefficient) = unit := by
    unfold unitAt
    omega
  refine ⟨same, ?_⟩
  rw [coefficientAt, same, Nat.add_sub_cancel_left]

theorem exists_parts (bits : ℕ) : ∃ unit coefficient, bits = unit * 2 ^ 52 + coefficient ∧
    coefficient < 2 ^ 53 ∧ (unit = 0 ∨ 2 ^ 52 ≤ coefficient) := by
  refine ⟨bits / 2 ^ 52 - 1, bits - (bits / 2 ^ 52 - 1) * 2 ^ 52, ?_, ?_, ?_⟩ <;> omega

theorem steps_succ (bits : ℕ) : steps (bits + 1) = steps bits + 2 ^ unitAt bits := by
  obtain ⟨unit, coefficient, rfl, small, leading⟩ := exists_parts bits
  obtain ⟨unit_eq, coefficient_eq⟩ := parts_eq small leading
  rw [steps, steps, unit_eq, coefficient_eq]
  rcases Nat.lt_or_eq_of_le (Nat.succ_le_of_lt small) with more | last
  · obtain ⟨unit_eq', coefficient_eq'⟩ :=
      parts_eq more (by omega : unit = 0 ∨ 2 ^ 52 ≤ coefficient + 1)
    rw [Nat.add_assoc, unit_eq', coefficient_eq', Nat.succ_mul]
  · -- The next coefficient has one bit more, so that it is halved and the unit is doubled.
    have next : unit * 2 ^ 52 + coefficient + 1 = (unit + 1) * 2 ^ 52 + 2 ^ 52 := by omega
    obtain ⟨unit_eq', coefficient_eq'⟩ :=
      parts_eq (by decide : 2 ^ 52 < 2 ^ 53) (.inr le_rfl : unit + 1 = 0 ∨ 2 ^ 52 ≤ 2 ^ 52)
    rw [next, unit_eq', coefficient_eq', ← Nat.succ_mul, last]
    ring

theorem steps_strictMono : StrictMono steps :=
  strictMono_nat_of_lt_succ fun bits => by
    rw [steps_succ]
    exact Nat.lt_add_of_pos_right (Nat.two_pow_pos _)

theorem steps_lt_succ (bits : ℕ) : (steps bits : ℚ) < steps (bits + 1) := by
  exact_mod_cast steps_strictMono bits.lt_succ_self

/-- The number that a point is. -/
def numberAt (bits : ℕ) : ℚ := steps bits / 2 ^ 1074

theorem numberAt_eq (bits : ℕ) :
    numberAt bits = coefficientAt bits * 2 ^ ((unitAt bits : ℤ) - 1074) := by
  rw [numberAt, steps, Nat.cast_mul, Nat.cast_pow, Nat.cast_ofNat, zpow_sub₀ (by norm_num),
    mul_div_assoc]
  rfl

theorem numberAt_of_parts {unit coefficient : ℕ} (small : coefficient < 2 ^ 53)
    (leading : unit = 0 ∨ 2 ^ 52 ≤ coefficient) :
    numberAt (unit * 2 ^ 52 + coefficient) = coefficient * 2 ^ ((unit : ℤ) - 1074) := by
  obtain ⟨unit_eq, coefficient_eq⟩ := parts_eq small leading
  rw [numberAt_eq, unit_eq, coefficient_eq]

theorem numberAt_strictMono : StrictMono numberAt := fun low high less => by
  unfold numberAt
  gcongr
  exact steps_strictMono less

theorem numberAt_zero : numberAt 0 = 0 := by
  have zero : steps 0 = 0 := rfl
  simp [numberAt, zero]

theorem meaning_of_lt {x : Binary64} (finite : x.bits.toNat < infinityBits) :
    x.meaning = .finite false (coefficientAt x.bits.toNat) (unitAt x.bits.toNat - 1074) := by
  have below : x.bits.toNat < 2047 * 2 ^ 52 := finite
  unfold meaning coefficientAt unitAt
  generalize x.bits.toNat = n at below
  have sign : ¬ twoTo 63 ≤ n := by
    change ¬ 2 ^ 63 ≤ n
    omega
  have leading : twoTo 52 = 2 ^ 52 := rfl
  have biased : n / 2 ^ 52 % twoTo 11 = n / 2 ^ 52 := Nat.mod_eq_of_lt (by
    change n / 2 ^ 52 < 2 ^ 11
    omega)
  simp only [leading, biased, sign, decide_false]
  split
  · omega
  split
  all_goals
    simp only [Meaning.finite.injEq, true_and]
    omega

/-- The point nearest to a distance from zero, measured by the least positive double; one of two
that are equally near is the even one. The power of two behind the greatest double counts as a
point. -/
def Closest (bits : ℕ) (distance : ℚ) : Prop :=
  ∀ other ≤ infinityBits, other ≠ bits → |distance - steps bits| < |distance - steps other| ∨
    |distance - steps bits| = |distance - steps other| ∧ bits % 2 = 0

/-- The distance is behind the middle between the point and the one below it, and before the middle
between the point and the next one, where a middle counts if the point is even. -/
structure Covers (bits : ℕ) (distance : ℚ) : Prop where
  behind : ∀ below, below + 1 = bits → (steps below + steps bits : ℚ) < 2 * distance ∨
    (steps below + steps bits : ℚ) = 2 * distance ∧ bits % 2 = 0
  before : 2 * distance < steps bits + steps (bits + 1) ∨
    2 * distance = steps bits + steps (bits + 1) ∧ bits % 2 = 0

namespace Covers

variable {bits : ℕ} {low high distance : ℚ}

theorem of_between (covered : Covers bits low) (covered' : Covers bits high)
    (above : low ≤ distance) (below : distance ≤ high) : Covers bits distance where
  behind := by
    intro least same
    rcases covered.behind least same with past | ⟨past, even⟩
    · exact .inl (by linarith)
    · rcases eq_or_lt_of_le above with rfl | further
      · exact .inr ⟨past, even⟩
      · exact .inl (by linarith)
  before := by
    rcases covered'.before with ahead | ⟨ahead, even⟩
    · exact .inl (by linarith)
    · rcases eq_or_lt_of_le below with rfl | nearer
      · exact .inr ⟨ahead, even⟩
      · exact .inl (by linarith)

theorem of_down (low : steps bits ≤ distance)
    (half : 2 * distance < steps bits + steps (bits + 1) ∨
      2 * distance = steps bits + steps (bits + 1) ∧ bits % 2 = 0) : Covers bits distance where
  behind := by
    rintro below rfl
    have less := steps_lt_succ below
    exact .inl (by linarith)
  before := half

theorem of_up (high : distance < steps (bits + 1))
    (half : steps bits + steps (bits + 1) < 2 * distance ∨
      steps bits + steps (bits + 1) = 2 * distance ∧ bits % 2 = 1) :
    Covers (bits + 1) distance where
  behind := by
    rintro below same
    obtain rfl := Nat.succ_inj.mp same
    exact half.imp_right (And.imp_right fun odd => by omega)
  before := by
    have less := steps_lt_succ (bits + 1)
    exact .inl (by linarith)

theorem self (bits : ℕ) : Covers bits (steps bits) := by
  have less := steps_lt_succ bits
  exact of_down le_rfl (.inl (by linarith))

theorem middle_le {below : ℕ} {number : ℚ} (covered : Covers bits (number * 2 ^ 1074))
    (less : below < bits) : numberAt below + numberAt (below + 1) ≤ 2 * number := by
  obtain ⟨last, rfl⟩ : ∃ last, bits = last + 1 := ⟨bits - 1, by omega⟩
  have behind := covered.behind last rfl
  have front : (steps below : ℚ) ≤ steps last := by
    exact_mod_cast steps_strictMono.monotone (Nat.le_of_lt_succ less)
  have back : (steps (below + 1) : ℚ) ≤ steps (last + 1) := by
    exact_mod_cast steps_strictMono.monotone less
  have scale : (0 : ℚ) < 2 ^ 1074 := by positivity
  rw [numberAt, numberAt, ← add_div, div_le_iff₀ scale, mul_assoc]
  generalize number * 2 ^ 1074 = distance at behind ⊢
  rcases behind with past | ⟨past, -⟩ <;> linarith

theorem le_next {number : ℚ} (covered : Covers bits (number * 2 ^ 1074)) :
    number ≤ numberAt (bits + 1) := by
  have before := covered.before
  have less := steps_lt_succ bits
  rw [numberAt, le_div_iff₀ (by positivity)]
  generalize number * 2 ^ 1074 = distance at before ⊢
  rcases before with ahead | ⟨ahead, -⟩ <;> linarith

end Covers

section Middle

variable {low high point : ℚ}

theorem nearer_low_iff (less : low < high) :
    |point - low| < |point - high| ↔ 2 * point < low + high := by
  rw [← sq_lt_sq]
  constructor
  · intro nearer
    nlinarith
  · intro below
    nlinarith

theorem nearer_high_iff (less : low < high) :
    |point - high| < |point - low| ↔ low + high < 2 * point := by
  rw [← sq_lt_sq]
  constructor
  · intro nearer
    nlinarith
  · intro above
    nlinarith

theorem equally_near_iff (less : low < high) :
    |point - low| = |point - high| ↔ 2 * point = low + high := by
  constructor
  · intro same
    have notBelow := (nearer_low_iff less).not.mp same.not_lt
    have notAbove := (nearer_high_iff less).not.mp same.not_gt
    linarith
  · intro middle
    have notBelow := (nearer_low_iff less).not.mpr middle.not_lt
    have notAbove := (nearer_high_iff less).not.mpr middle.not_gt
    linarith

end Middle

theorem closest_iff_covers {bits : ℕ} {distance : ℚ} (finite : bits < infinityBits) :
    Closest bits distance ↔ Covers bits distance := by
  have apart {low high : ℕ} (less : low < high) : (steps low : ℚ) < steps high := by
    exact_mod_cast steps_strictMono less
  constructor
  · intro closest
    refine ⟨?_, ?_⟩
    · rintro below rfl
      have next := closest below (by omega) (by omega)
      rwa [nearer_high_iff (apart below.lt_succ_self), eq_comm (a := |_|),
        equally_near_iff (apart below.lt_succ_self), eq_comm (a := _ * _)] at next
    · have next := closest (bits + 1) finite (by omega)
      rwa [nearer_low_iff (apart bits.lt_succ_self), equally_near_iff (apart bits.lt_succ_self)]
        at next
  · rintro ⟨behind, before⟩ other - different
    rcases Nat.lt_or_gt_of_ne different with less | greater
    · obtain ⟨below, rfl⟩ : ∃ below, bits = below + 1 := ⟨bits - 1, by omega⟩
      rw [nearer_high_iff (apart less), eq_comm (a := |_|), equally_near_iff (apart less),
        eq_comm (a := _ * _)]
      rcases Nat.lt_or_eq_of_le (Nat.le_of_lt_succ less) with further | rfl
      · have := apart further
        rcases behind below rfl with past | ⟨past, -⟩
        · exact .inl (by linarith)
        · exact .inl (by linarith)
      · exact behind other rfl
    · rw [nearer_low_iff (apart greater), equally_near_iff (apart greater)]
      rcases Nat.lt_or_eq_of_le (Nat.succ_le_of_lt greater) with further | rfl
      · have := apart further
        rcases before with ahead | ⟨ahead, -⟩
        · exact .inl (by linarith)
        · exact .inl (by linarith)
      · exact before

end LoadSeries.Binary64

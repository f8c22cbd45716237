import LoadSeries.Dataset.Calendar
import Mathlib

/-!
The calendar, day by day. A date is followed by the next one, and days are counted by going from
date to date; the number that is computed for a date is that count from the first of January 1970.
-/
namespace LoadSeries
open Calendar

structure Date where
  year : Int
  month : Nat
  day : Nat
deriving DecidableEq, Repr

namespace Date

/-- Every fourth year is a leap year, but of those that end a century only every fourth. -/
def IsLeapYear (year : Int) : Prop := 4 ∣ year ∧ (100 ∣ year → 400 ∣ year)

instance (year : Int) : Decidable (IsLeapYear year) := inferInstanceAs (Decidable (_ ∧ _))

def monthLengths (year : Int) : List Nat :=
  [31, if IsLeapYear year then 29 else 28, 31, 30, 31, 30, 31, 31, 30, 31, 30, 31]

/-- The last day of the month of a date; 0 if there is no such month. -/
def lastDay (x : Date) : Nat := (0 :: monthLengths x.year).getD x.month 0

structure Exists (x : Date) : Prop where
  month : 1 ≤ x.month ∧ x.month ≤ 12
  day : 1 ≤ x.day ∧ x.day ≤ x.lastDay

/-- The date of the day after. -/
def next (x : Date) : Date :=
  if x.day < x.lastDay then { x with day := x.day + 1 }
  else if x.month < 12 then ⟨x.year, x.month + 1, 1⟩
  else ⟨x.year + 1, 1, 1⟩

/-- So many days lead from the first date to the second, or back if they are negative. -/
def Apart (x y : Date) (days : Int) : Prop :=
  if 0 ≤ days then next^[days.toNat] x = y else next^[(-days).toNat] y = x

def epoch : Date := ⟨1970, 1, 1⟩

def number (x : Date) : Int := dayNumber x.year x.month x.day

variable {x y : Date} {year : Int} {month : Nat}

theorem isLeap_iff (year : Int) : isLeap year = true ↔ IsLeapYear year := by
  simp only [isLeap, IsLeapYear, Bool.and_eq_true, Bool.or_eq_true, beq_iff_eq, bne_iff_ne]
  omega

theorem lastDay_eq (inside : 1 ≤ x.month ∧ x.month ≤ 12) :
    x.lastDay = monthLength x.year x.month := by
  obtain ⟨year, month, day⟩ := x
  obtain ⟨low, high⟩ := inside
  dsimp only at low high
  interval_cases month <;> simp [lastDay, monthLengths, monthLength, isLeap_iff]

theorem isDate_iff (near : yearInRange x.year = true) :
    isDate x.year x.month x.day = true ↔ x.Exists := by
  simp only [isDate, near, Bool.true_and, Bool.and_eq_true, decide_eq_true_eq]
  constructor
  · rintro ⟨⟨⟨low, high⟩, first⟩, last⟩
    exact ⟨⟨low, high⟩, first, lastDay_eq ⟨low, high⟩ ▸ last⟩
  · rintro ⟨month, first, last⟩
    exact ⟨⟨month, first⟩, lastDay_eq month ▸ last⟩

theorem daysBeforeMonth_succ (positive : 1 ≤ month) :
    daysBeforeMonth year (month + 1) = daysBeforeMonth year month + monthLength year month := by
  obtain ⟨m, rfl⟩ := Nat.exists_eq_add_of_le' positive
  rfl

theorem daysBeforeYear_succ (year : Int) : daysBeforeYear (year + 1) =
    daysBeforeYear year + daysBeforeMonth year 12 + monthLength year 12 := by
  have leap := isLeap_iff year
  simp only [daysBeforeMonth, monthLength]
  unfold daysBeforeYear
  unfold IsLeapYear at leap
  split <;> simp_all <;> omega

theorem monthLength_pos (year : Int) (month : Nat) : 0 < monthLength year month := by
  unfold monthLength
  split
  · split <;> decide
  all_goals decide

namespace Exists

variable (present : x.Exists)
include present

theorem day_le : x.day ≤ monthLength x.year x.month := lastDay_eq present.month ▸ present.day.2

theorem next : x.next.Exists := by
  obtain ⟨⟨low, high⟩, first, last⟩ := present
  have one {year : Int} {month : Nat} (inside : 1 ≤ month ∧ month ≤ 12) :
      (⟨year, month, 1⟩ : Date).Exists := by
    refine ⟨inside, Nat.le_refl 1, ?_⟩
    rw [lastDay_eq inside]
    exact monthLength_pos year month
  unfold Date.next
  split
  · rename_i more
    exact ⟨⟨low, high⟩, Nat.le_add_left 1 _, more⟩
  · split
    · exact one ⟨by omega, by omega⟩
    · exact one ⟨Nat.le_refl 1, by decide⟩

theorem number_next : x.next.number = x.number + 1 := by
  have last := lastDay_eq present.month
  have day := present.day_le
  have positive := present.month.1
  unfold Date.next number dayNumber
  split
  · dsimp only
    omega
  · rename_i full
    have full : x.day = monthLength x.year x.month := by omega
    split
    · dsimp only
      rw [daysBeforeMonth_succ positive, full]
      omega
    · have december : x.month = 12 := by
        have high := present.month.2
        omega
      rw [december] at full
      dsimp only
      rw [daysBeforeYear_succ, full, december]
      simp only [daysBeforeMonth]
      omega

end Exists

/-- The months of a year follow each other without a gap, so that an earlier one ends before. -/
theorem daysBeforeMonth_le {later : Nat} (positive : 1 ≤ month) (less : month < later) :
    daysBeforeMonth year month + monthLength year month ≤ daysBeforeMonth year later := by
  induction later, less using Nat.le_induction with
  | base => exact (daysBeforeMonth_succ positive).ge
  | succ later less ih =>
    have step : daysBeforeMonth year (later + 1) =
        daysBeforeMonth year later + monthLength year later := daysBeforeMonth_succ (by omega)
    omega

theorem daysBeforeYear_le {later : Int} (less : year < later) :
    daysBeforeYear (year + 1) ≤ daysBeforeYear later := by
  unfold daysBeforeYear
  omega

/-- The days of a year come behind all days of the years before, and there are no others. -/
theorem number_within (present : x.Exists) :
    daysBeforeYear x.year - daysBeforeYear 1970 ≤ x.number ∧
      x.number < daysBeforeYear (x.year + 1) - daysBeforeYear 1970 := by
  have succ := daysBeforeYear_succ x.year
  have first := present.day.1
  have last := present.day_le
  have month : daysBeforeMonth x.year x.month + monthLength x.year x.month ≤
      daysBeforeMonth x.year 12 + monthLength x.year 12 := by
    rcases Nat.lt_or_eq_of_le present.month.2 with earlier | december
    · exact (daysBeforeMonth_le present.month.1 earlier).trans (Nat.le_add_right _ _)
    · rw [december]
  unfold number dayNumber
  omega

theorem number_lt_of_year_lt (present : x.Exists) (present' : y.Exists) (less : x.year < y.year) :
    x.number < y.number := by
  have years := daysBeforeYear_le less
  have before := (number_within present).2
  have behind := (number_within present').1
  omega

theorem number_lt_of_month_lt (present : x.Exists) (present' : y.Exists)
    (same : x.year = y.year) (less : x.month < y.month) : x.number < y.number := by
  have months : daysBeforeMonth x.year x.month + monthLength x.year x.month ≤
      daysBeforeMonth x.year y.month := daysBeforeMonth_le present.month.1 less
  have day := present.day_le
  have day' := present'.day.1
  unfold number dayNumber
  rw [← same]
  omega

theorem number_injective (present : x.Exists) (present' : y.Exists)
    (same : x.number = y.number) : x = y := by
  have year : x.year = y.year := by
    rcases lt_trichotomy x.year y.year with less | equal | greater
    · exact absurd same (number_lt_of_year_lt present present' less).ne
    · exact equal
    · exact absurd same (number_lt_of_year_lt present' present greater).ne'
  have month : x.month = y.month := by
    rcases lt_trichotomy x.month y.month with less | equal | greater
    · exact absurd same (number_lt_of_month_lt present present' year less).ne
    · exact equal
    · exact absurd same (number_lt_of_month_lt present' present year.symm greater).ne'
  obtain ⟨_, _, day⟩ := x
  obtain ⟨_, _, day'⟩ := y
  obtain rfl : _ = _ := year
  obtain rfl : _ = _ := month
  have days : day = day' := by
    unfold number dayNumber at same
    dsimp only at same
    omega
  rw [days]

theorem number_iterate (present : x.Exists) (n : Nat) :
    (next^[n] x).Exists ∧ (next^[n] x).number = x.number + n := by
  induction n with
  | zero => exact ⟨present, (Int.add_zero _).symm⟩
  | succ n ih =>
    rw [Function.iterate_succ_apply']
    exact ⟨ih.1.next, by rw [ih.1.number_next, ih.2]; omega⟩

/-- Days are counted right: their number is the difference of the numbers of the dates. -/
theorem apart_iff (present : x.Exists) (present' : y.Exists) (days : Int) :
    Apart x y days ↔ days = y.number - x.number := by
  have reached {x y : Date} (present : x.Exists) (present' : y.Exists) (n : Nat) :
      next^[n] x = y ↔ (n : Int) = y.number - x.number := by
    obtain ⟨there, number⟩ := number_iterate present n
    constructor
    · rintro rfl
      omega
    · intro count
      exact number_injective there present' (by omega)
  unfold Apart
  split
  · rw [reached present present']
    omega
  · rw [reached present' present]
    omega

theorem exists_epoch : epoch.Exists := ⟨by decide, by decide⟩

theorem number_epoch : epoch.number = 0 := rfl

theorem apart_epoch_iff (present : x.Exists) (days : Int) :
    Apart epoch x days ↔ days = x.number := by
  rw [apart_iff exists_epoch present, number_epoch, Int.sub_zero]

end Date
end LoadSeries

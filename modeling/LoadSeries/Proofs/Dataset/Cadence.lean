import LoadSeries.Proofs.Dataset.Requirements
import LoadSeries.Proofs.Generator.Place

/-!
Which cadences are accepted. Only the last time stamp is looked at in advance, and it is enough: on
the way to an earlier one nothing overflows either, so that every time stamp of an accepted cadence
is the exact one.
-/
namespace LoadSeries

theorem userCount_le (first last : Int32) : userCount first last ≤ 0x100000000 := by
  have low := first.le_toInt
  have high := last.toInt_lt
  unfold userCount
  omega

namespace Cadence

/-- The number is a signed word of 64 bits. -/
def IsInt64 (n : Int) : Prop := -0x8000000000000000 ≤ n ∧ n < 0x8000000000000000

theorem fitsInt64_iff {n : Int} : fitsInt64 n = true ↔ IsInt64 n := by
  simp [fitsInt64, IsInt64]

/-- The distance of a sample from the start, and its time stamp, can be computed in words. -/
def Fits (x : Cadence) (sample : Nat) : Prop :=
  IsInt64 (sample * x.intervalMillis.toInt) ∧
    IsInt64 (x.startMillis.toInt + sample * x.intervalMillis.toInt)

/-- What a cadence has to be like: it has users, numbered from 0 on at the least, and samples, at
times that go forward and can all be computed. -/
structure Admissible (x : Cadence) : Prop where
  first : 0 ≤ x.firstUser.toInt
  last : x.firstUser.toInt ≤ x.lastUser.toInt
  samples : 0 < x.samplesPerUser.toNat
  interval : 0 < x.intervalMillis.toInt
  fits : ∀ sample < x.samplesPerUser.toNat, x.Fits sample

def lastSample (x : Cadence) : Nat := x.samplesPerUser.toNat - 1

/-- Users are numbered from 0 on, and the last is not in front of the first. -/
def usersRequirement (x : Cadence) : Requirement :=
  .of (0 ≤ x.firstUser.toInt ∧ x.firstUser.toInt ≤ x.lastUser.toInt)
    (.invalidUserRange x.firstUser.toInt x.lastUser.toInt)

def samplesRequirement (x : Cadence) : Requirement := .of (0 < x.samplesPerUser.toNat) .noSamples

def intervalRequirement (x : Cadence) : Requirement :=
  .of (0 < x.intervalMillis.toInt)
    (.invalidInterval (Text.intString x.intervalMillis.toInt ++ "ms") "interval must be positive")

def lastSampleRequirement (x : Cadence) : Requirement :=
  .of (x.Fits x.lastSample) (.timestampOverflow x.lastSample)

def requirements (x : Cadence) : List Requirement :=
  [x.usersRequirement, x.samplesRequirement, x.intervalRequirement, x.lastSampleRequirement]

variable {x : Cadence}

theorem requirements_govern_check (x : Cadence) : Governs x.requirements x.check := by
  unfold check
  refine .guarded (by omega) fun _ => .guarded (by omega) fun _ => .guarded (by omega) fun _ => ?_
  dsimp only
  -- The last check is written with its result first.
  rw [← ite_not]
  refine .guarded ?_ fun _ => governs_ok ()
  rw [Bool.and_eq_true, fitsInt64_iff, fitsInt64_iff]
  rfl

theorem requirements_govern (x : Cadence) : Governs x.requirements x.checked :=
  x.requirements_govern_check.map

/-- Distances and time stamps grow with the sample, from the start on, so that the last ones bound
them all. -/
theorem Fits.mono (interval : 0 ≤ x.intervalMillis.toInt) {sample last : Nat} (fits : x.Fits last)
    (before : sample ≤ last) : x.Fits sample := by
  obtain ⟨⟨-, distance⟩, -, stamp⟩ := fits
  have start := x.startMillis.le_toInt
  have forward : (0 : Int) ≤ sample * x.intervalMillis.toInt := Int.mul_nonneg (by omega) interval
  have within : (sample : Int) * x.intervalMillis.toInt ≤ last * x.intervalMillis.toInt :=
    Int.mul_le_mul_of_nonneg_right (by omega) interval
  exact ⟨⟨by omega, by omega⟩, by omega, by omega⟩

theorem requirements_hold_iff (x : Cadence) :
    (∀ requirement ∈ x.requirements, requirement.holds) ↔ x.Admissible := by
  simp only [requirements, List.forall_mem_cons, List.not_mem_nil, false_implies, implies_true,
    and_true, usersRequirement, samplesRequirement, intervalRequirement, lastSampleRequirement,
    Requirement.of]
  constructor
  · rintro ⟨⟨first, last⟩, samples, interval, fits⟩
    refine ⟨first, last, samples, interval, fun sample inside => ?_⟩
    exact fits.mono (Int.le_of_lt interval) (Nat.le_sub_one_of_lt inside)
  · rintro ⟨first, last, samples, interval, fits⟩
    exact ⟨⟨first, last⟩, samples, interval, fits x.lastSample (Nat.sub_one_lt_of_lt samples)⟩

theorem totalRecords_lt (x : Cadence) : x.totalRecords < 0x10000000000000000 := by
  have users := userCount_le x.firstUser x.lastUser
  have samples := x.samplesPerUser.toNat_lt
  calc x.totalRecords ≤ 0x100000000 * x.samplesPerUser.toNat := Nat.mul_le_mul_right _ users
    _ < 0x10000000000000000 := by omega

theorem totalRecords_of_inverted (inverted : x.lastUser < x.firstUser) : x.totalRecords = 0 := by
  rw [Int32.lt_iff_toInt_lt] at inverted
  have none : userCount x.firstUser x.lastUser = 0 := by
    unfold userCount
    omega
  rw [totalRecords, none, Nat.zero_mul]

namespace Admissible

variable (admissible : x.Admissible)
include admissible

theorem accepted : x.Accepted where
  first := admissible.first
  last := admissible.last
  samples := admissible.samples
  interval := admissible.interval
  fits := (admissible.fits _ (Nat.sub_one_lt_of_lt admissible.samples)).2.2

theorem timestampAt_lt {i j : Nat} (less : i < j) (inside : j < x.samplesPerUser.toNat) :
    x.timestampAt i < x.timestampAt j := by
  rw [Int64.lt_iff_toInt_lt, admissible.accepted.timestampAt_toInt (less.trans inside),
    admissible.accepted.timestampAt_toInt inside]
  have forward : (i : Int) * x.intervalMillis.toInt < j * x.intervalMillis.toInt :=
    Int.mul_lt_mul_of_pos_right (by omega) admissible.interval
  omega

theorem totalRecords_eq : (x.totalRecords : Int) =
    (x.lastUser.toInt - x.firstUser.toInt + 1) * x.samplesPerUser.toNat := by
  rw [totalRecords, Nat.cast_mul, admissible.accepted.userCount_eq]

end Admissible

/-- A cadence is accepted as it is if and only if it is admissible, and else it is refused for the
first requirement that it does not meet. The time stamps of one that is accepted are exact and grow,
and it has all samples of all users; but no cadence at all has more records than a word counts. -/
theorem accepted_exactly (x : Cadence) :
    ((∃ y, x.checked = .ok y) ↔ x.Admissible) ∧ (∀ y, x.checked = .ok y → y = x) ∧
      (∀ error, x.checked = .error error ↔ FirstFailure error x.requirements) ∧
      (x.Admissible →
        (∀ i < x.samplesPerUser.toNat, (x.timestampAt i).toInt =
          x.startMillis.toInt + i * x.intervalMillis.toInt) ∧
        (∀ i j, i < j → j < x.samplesPerUser.toNat → x.timestampAt i < x.timestampAt j) ∧
        (x.totalRecords : Int) =
          (x.lastUser.toInt - x.firstUser.toInt + 1) * x.samplesPerUser.toNat) ∧
      x.totalRecords < 0x10000000000000000 ∧
      (x.lastUser < x.firstUser → x.totalRecords = 0) := by
  have governs := x.requirements_govern
  refine ⟨governs.passes.trans x.requirements_hold_iff, fun y passed => ?_, governs.fails, ?_,
    x.totalRecords_lt, totalRecords_of_inverted⟩
  · obtain ⟨⟨⟩, -, same⟩ := map_eq_ok_iff.mp passed
    exact same.symm
  · intro admissible
    exact ⟨fun i inside => admissible.accepted.timestampAt_toInt inside,
      fun i j less inside => admissible.timestampAt_lt less inside, admissible.totalRecords_eq⟩

/-- As many users and samples as words can number, from the earliest time of all on. -/
def longest : Cadence := ⟨0, 0x7fffffff, 0xffffffff, Int64.minValue, 0x80000000⟩

/-- Here a time stamp is computed that overflows by one, though no earlier one does. -/
def tooLong : Cadence := ⟨0, 0, 3, 0x7fffffffffffffff - 19, 10⟩

theorem accepted_exactly_longest : longest.Admissible ∧
    (longest.timestampAt 0xfffffffe).toInt = -0x8000000000000000 + 0xfffffffe * 0x80000000 ∧
    longest.totalRecords = 0x80000000 * 0xffffffff ∧
    ¬ tooLong.Admissible ∧ FirstFailure (.timestampOverflow 2) tooLong.requirements := by
  obtain ⟨passes, -, -, exactly, -⟩ := accepted_exactly longest
  obtain ⟨passes', -, fails', -⟩ := accepted_exactly tooLong
  have admissible : longest.Admissible := passes.mp ⟨longest, by decide⟩
  obtain ⟨stamps, -, records⟩ := exactly admissible
  have refused : tooLong.checked = .error (.timestampOverflow 2) := by decide
  refine ⟨admissible, stamps 0xfffffffe (by decide), ?_, fun admissible' => ?_,
    (fails' _).mp refused⟩
  · exact Int.ofNat_inj.mp records
  · obtain ⟨y, passed⟩ := passes'.mpr admissible'
    exact absurd (passed.symm.trans refused) (by simp)

end Cadence

end LoadSeries

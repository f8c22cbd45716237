import LoadSeries.Generator.Basic
import LoadSeries.Proofs.Except

/-!
The records of a data set by their places. A cadence that passes its check lays the samples of its
users in a row, without an overflow of a user or a time stamp, and each record has its own stretch
of the random stream.
-/
namespace LoadSeries
open Text

namespace Cadence

/-- What a cadence that passes its check can be relied on for. -/
structure Accepted (x : Cadence) : Prop where
  first : 0 ≤ x.firstUser.toInt
  last : x.firstUser.toInt ≤ x.lastUser.toInt
  samples : 0 < x.samplesPerUser.toNat
  interval : 0 < x.intervalMillis.toInt
  fits : x.startMillis.toInt + (x.samplesPerUser.toNat - 1 : Nat) * x.intervalMillis.toInt <
    0x8000000000000000

variable {x : Cadence}

theorem accepted_of_check (passed : x.check = .ok ()) : x.Accepted := by
  unfold check at passed
  split at passed
  · cases passed
  rename_i range
  split at passed
  · cases passed
  rename_i samples
  split at passed
  · cases passed
  rename_i interval
  simp [fitsInt64] at passed
  obtain ⟨-, -, -, fits⟩ := passed
  exact ⟨by omega, by omega, by omega, by omega, by omega⟩

namespace Accepted

theorem userCount_eq (accepted : x.Accepted) :
    (userCount x.firstUser x.lastUser : Int) = x.lastUser.toInt - x.firstUser.toInt + 1 := by
  have order := accepted.last
  unfold userCount
  omega

theorem totalRecords_pos (accepted : x.Accepted) : 0 < x.totalRecords := by
  have users := accepted.userCount_eq
  have order := accepted.last
  exact Nat.mul_pos (by omega) accepted.samples

theorem timestampAt_toInt (accepted : x.Accepted) {sample : Nat}
    (inside : sample < x.samplesPerUser.toNat) :
    (x.timestampAt sample).toInt = x.startMillis.toInt + sample * x.intervalMillis.toInt := by
  have start := x.startMillis.le_toInt
  have fits := accepted.fits
  have forward : (0 : Int) ≤ sample * x.intervalMillis.toInt :=
    Int.mul_nonneg (by omega) (Int.le_of_lt accepted.interval)
  -- Time stamps grow with the sample, so the last one, which the check looks at, bounds them all.
  have before : (sample : Int) * x.intervalMillis.toInt ≤
      (x.samplesPerUser.toNat - 1 : Nat) * x.intervalMillis.toInt :=
    Int.mul_le_mul_of_nonneg_right (by omega) (Int.le_of_lt accepted.interval)
  exact Int64.toInt_ofInt_of_le (by omega) (by omega)

theorem user_lt (accepted : x.Accepted) {k : Nat} (inside : k < x.totalRecords) :
    k / x.samplesPerUser.toNat < userCount x.firstUser x.lastUser :=
  (Nat.div_lt_iff_lt_mul accepted.samples).mpr inside

/-- The number of a user is no greater than the last one's. -/
theorem user_toInt (accepted : x.Accepted) {k : Nat} (inside : k < x.totalRecords) :
    (Int32.ofInt (x.firstUser.toInt + (k / x.samplesPerUser.toNat : Nat))).toInt =
      x.firstUser.toInt + (k / x.samplesPerUser.toNat : Nat) := by
  have first := accepted.first
  have last := x.lastUser.toInt_lt
  have user := accepted.user_lt inside
  have users := accepted.userCount_eq
  generalize k / x.samplesPerUser.toNat = offset at user ⊢
  exact Int32.toInt_ofInt_of_le (by omega) (by omega)

end Accepted

end Cadence

namespace Cursor

def atPlace (samples k : Nat) : Cursor := ⟨k / samples, k % samples⟩

theorem advance_atPlace {samples : Nat} (positive : 0 < samples) (k : Nat) :
    (atPlace samples k).advance samples = atPlace samples (k + 1) := by
  have whole := Nat.mod_add_div k samples
  have inside := Nat.mod_lt k positive
  unfold advance atPlace
  split
  · rename_i last
    have last : samples ≤ k % samples + 1 := last
    have next : (k + 1) / samples = k / samples + 1 ∧ (k + 1) % samples = 0 := by
      rw [Nat.div_mod_unique positive, Nat.mul_add]
      omega
    rw [next.1, next.2]
  · rename_i more
    have more : ¬ samples ≤ k % samples + 1 := more
    have next : (k + 1) / samples = k / samples ∧ (k + 1) % samples = k % samples + 1 := by
      rw [Nat.div_mod_unique positive]
      omega
    rw [next.1, next.2]

variable {x : Cadence}

/-- An offset is no greater than the number of users, which a word of 64 bits can hold. -/
theorem user?_eq {y : Cursor} {first last : Int32} (within : y.userOffset ≤ userCount first last) :
    y.user? first last = if y.userOffset < userCount first last
      then some (Int32.ofInt (first.toInt + y.userOffset)) else none := by
  have low := first.le_toInt
  have high := last.toInt_lt
  unfold userCount at within ⊢
  have offset : (Int64.ofNat y.userOffset).toInt = y.userOffset :=
    Int64.toInt_ofNat_of_lt (by omega)
  simp only [user?, offset]
  split
  · rw [if_neg (by omega)]
  · rw [if_pos (by omega)]

theorem user?_atPlace (accepted : x.Accepted) {k : Nat} (inside : k < x.totalRecords) :
    (atPlace x.samplesPerUser.toNat k).user? x.firstUser x.lastUser =
      some (Int32.ofInt (x.firstUser.toInt + (k / x.samplesPerUser.toNat : Nat))) := by
  have user := accepted.user_lt inside
  rw [user?_eq user.le]
  exact if_pos user

theorem user?_end (accepted : x.Accepted) :
    (atPlace x.samplesPerUser.toNat x.totalRecords).user? x.firstUser x.lastUser = none := by
  have place : x.totalRecords / x.samplesPerUser.toNat = userCount x.firstUser x.lastUser :=
    Nat.mul_div_cancel _ accepted.samples
  rw [user?_eq place.le]
  exact if_neg place.not_lt

end Cursor

namespace Random

/-- The values from a place on are those of the draws there, if each of them has one. -/
theorem values_eq_ok_iff {key : Key} {place count : Nat} {drawn : List MetricValue} :
    values key place count = .ok drawn ↔
      drawn.map .ok = (List.range count).map fun i => value (draw key (place + i)) := by
  induction count generalizing place drawn with
  | zero =>
    simp only [values, List.range_zero, List.map_nil, List.map_eq_nil_iff]
    constructor
    · intro same
      exact (Except.ok.inj same).symm
    · rintro rfl
      rfl
  | succ count ih =>
    have shift : (fun i => value (draw key (place + i))) ∘ Nat.succ =
        fun i => value (draw key (place + 1 + i)) := by
      funext i
      rw [Function.comp_apply, Nat.succ_eq_add_one, Nat.add_right_comm, Nat.add_assoc]
    rw [List.range_succ_eq_map, List.map_cons, List.map_map, shift]
    simp only [values, bind_eq_ok_iff, pure_eq_ok_iff, ih, Nat.add_zero]
    constructor
    · rintro ⟨head, first, tail, rest, rfl⟩
      rw [List.map_cons, first, rest]
    · intro same
      cases drawn with
      | nil => cases same
      | cons head tail =>
        obtain ⟨first, rest⟩ := List.cons.inj same
        exact ⟨head, first.symm, tail, rest, rfl⟩

theorem exists_values {key : Key} {place count : Nat}
    (drawable : ∀ i < count, ∃ drawn, value (draw key (place + i)) = .ok drawn) :
    ∃ drawn, values key place count = .ok drawn := by
  induction count generalizing place with
  | zero => exact ⟨[], rfl⟩
  | succ count ih =>
    obtain ⟨head, first⟩ := drawable 0 (by omega)
    have later : ∀ i < count, ∃ drawn, value (draw key (place + 1 + i)) = .ok drawn := by
      intro i inside
      obtain ⟨drawn, found⟩ := drawable (i + 1) (by omega)
      exact ⟨drawn, by rw [← found, Nat.add_assoc, Nat.add_comm 1 i]⟩
    obtain ⟨tail, rest⟩ := ih later
    rw [Nat.add_zero] at first
    exact ⟨head :: tail, bind_eq_ok_iff.mpr ⟨head, first, bind_eq_ok_iff.mpr ⟨tail, rest, rfl⟩⟩⟩

end Random

namespace Recipe

/-- What the record of a place is: its user and sample, their time stamp and tags, and the values
of its own draws. -/
structure Determines (x : Recipe) (k : Nat) (record : Record) : Prop where
  user : record.user.toInt =
    x.cadence.firstUser.toInt + (k / x.cadence.samplesPerUser.toNat : Nat)
  sample : record.sample = k % x.cadence.samplesPerUser.toNat
  timestamp : record.timestamp.toInt =
    x.cadence.startMillis.toInt +
      (k % x.cadence.samplesPerUser.toNat : Nat) * x.cadence.intervalMillis.toInt
  tags : record.tags = x.tables.resolve record.user x.userType
  values : record.values.map .ok = (List.range x.catalog.size).map fun i =>
    Random.value (Random.draw x.key (k * x.catalog.size + i))

variable {x : Recipe}

theorem recordAt_eq_ok_iff (accepted : x.cadence.Accepted) {k : Nat} {record : Record}
    (inside : k < x.cadence.totalRecords) :
    x.recordAt k = .ok record ↔ x.Determines k record := by
  have user := accepted.user_toInt inside
  have timestamp := accepted.timestampAt_toInt (Nat.mod_lt k accepted.samples)
  unfold recordAt Recipe.record
  rw [bind_eq_ok_iff]
  constructor
  · rintro ⟨values, drawn, found⟩
    obtain rfl := pure_eq_ok_iff.mp found
    exact ⟨user, rfl, timestamp, rfl, Random.values_eq_ok_iff.mp drawn⟩
  · intro determined
    have sameUser := Int32.toInt_inj.mp (determined.user.trans user.symm)
    have sameTime := Int64.toInt_inj.mp (determined.timestamp.trans timestamp.symm)
    rw [← determined.sample] at sameTime
    refine ⟨record.values, Random.values_eq_ok_iff.mpr determined.values, pure_eq_ok_iff.mpr ?_⟩
    simp only [← sameUser, ← determined.sample, ← sameTime, ← determined.tags]

/-- The generator that has given the records of so many places. -/
def generatorAt (x : Recipe) (k : Nat) : Generator where
  recipe := x
  cursor := .atPlace x.cadence.samplesPerUser.toNat k
  place := k * x.catalog.size
  produced := k

theorem generatorAt_zero (x : Recipe) : x.generatorAt 0 = .ofRecipe x := by
  simp [generatorAt, Generator.ofRecipe, Cursor.atPlace, Cursor.origin]

/-- A generator goes on by one place, except that a record without values is not counted, and that
no draws are made for the rest of them. -/
theorem nextRecord_generatorAt (accepted : x.cadence.Accepted) {k : Nat}
    (inside : k < x.cadence.totalRecords) :
    (x.generatorAt k).nextRecord =
      match x.recordAt k with
      | .error e =>
        (.error e,
          { x.generatorAt (k + 1) with
            place := k * x.catalog.size + Random.spent x.key (k * x.catalog.size) x.catalog.size
            produced := k })
      | .ok record => (.ok (some record), x.generatorAt (k + 1)) := by
  have user := Cursor.user?_atPlace accepted inside
  have moved := Cursor.advance_atPlace accepted.samples k
  have drawn : k * x.catalog.size + x.catalog.size = (k + 1) * x.catalog.size := by
    rw [Nat.add_mul, Nat.one_mul]
  simp only [Generator.nextRecord, generatorAt, user, moved, drawn]
  rfl

theorem nextRecord_end (accepted : x.cadence.Accepted) :
    (x.generatorAt x.cadence.totalRecords).nextRecord =
      (.ok none, x.generatorAt x.cadence.totalRecords) := by
  simp only [Generator.nextRecord, generatorAt, Cursor.user?_end accepted]

end Recipe

end LoadSeries

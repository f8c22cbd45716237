import LoadSeries.Proofs.Decimal.Rounding
import LoadSeries.Proofs.Generator.Walk

/-!
Draws of a generator. A part of the value range is rounded to a double below the end of the range,
so that every draw has a decimal within the range, and a generator gives records until its data set
ends.
-/
namespace LoadSeries
open Text

/-- The value has two places and is none of those outside of the range. -/
structure MetricValue.InRange (x : MetricValue) : Prop where
  scale : x.decimal.scale = 2
  low : 0 ≤ x.decimal.value
  high : x.decimal.value ≤ Random.valueRange

namespace Random

def part (draw : UInt64) : ℕ := draw.toNat / 2 ^ 11

theorem part_lt (draw : UInt64) : part draw < 2 ^ 53 := by
  have small := draw.toNat_lt
  unfold part
  omega

theorem scaled_nearestTo (draw : UInt64) :
    (scaled draw).bits.toNat < Binary64.infinityBits ∧
      (scaled draw).NearestTo ((part draw : ℚ) / 2 ^ 53 * valueRange) := by
  have small : part draw * valueRange < 2 ^ 73 :=
    (Nat.mul_le_mul_right _ (part_lt draw).le).trans_lt (by decide)
  have short : (part draw * valueRange).log2 < 1000 := by
    rcases Nat.eq_zero_or_pos (part draw * valueRange) with zero | positive
    · rw [zero]
      decide
    · exact ((Nat.log2_lt positive.ne').mpr small).trans (by decide)
  have finite := Binary64.ratioBits_lt_infinityBits (Nat.two_pow_pos 53) short
  obtain ⟨word, nearest⟩ := Binary64.ofRatio_nearestTo (Nat.two_pow_pos 53) finite
  have ratio : ((part draw * valueRange : ℕ) : ℚ) / (2 ^ 53 : ℕ) =
      (part draw : ℚ) / 2 ^ 53 * valueRange := by
    rw [Nat.cast_mul, Nat.cast_pow, Nat.cast_ofNat, div_mul_eq_mul_div]
  rw [ratio] at nearest
  exact ⟨word.trans_lt finite, nearest⟩

/-- The next double behind that of a draw is not beyond the end of the range. -/
theorem numberAt_scaled_succ (draw : UInt64) :
    Binary64.numberAt ((scaled draw).bits.toNat + 1) ≤ valueRange := by
  obtain ⟨finite, nearest⟩ := scaled_nearestTo draw
  have covered := (Binary64.nearestTo_iff finite (by positivity)).mp nearest
  have last : Binary64.numberAt (1041 * 2 ^ 52 + (10 ^ 6 * 2 ^ 33 - 1)) =
      10 ^ 6 - 2 ^ (-33 : ℤ) := by
    rw [Binary64.numberAt_of_parts (by decide) (.inr (by decide))]
    norm_num
  have limit : Binary64.numberAt (1041 * 2 ^ 52 + (10 ^ 6 * 2 ^ 33 - 1) + 1) = 10 ^ 6 := by
    have parts : 1041 * 2 ^ 52 + (10 ^ 6 * 2 ^ 33 - 1) + 1 = 1041 * 2 ^ 52 + 10 ^ 6 * 2 ^ 33 := rfl
    rw [parts, Binary64.numberAt_of_parts (by decide) (.inr (by decide))]
    norm_num
  have range : (valueRange : ℚ) = 10 ^ 6 := by norm_num [valueRange]
  have most : (part draw : ℚ) ≤ (2 ^ 53 - 1 : ℕ) := by
    exact_mod_cast Nat.le_of_lt_succ (part_lt draw)
  rw [range] at covered ⊢
  have before : (scaled draw).bits.toNat ≤ 1041 * 2 ^ 52 + (10 ^ 6 * 2 ^ 33 - 1) := by
    by_contra beyond
    have middle := covered.middle_le (not_le.mp beyond)
    rw [last, limit] at middle
    norm_num1 at middle most
    linarith
  rw [← limit]
  exact Binary64.numberAt_strictMono.monotone (Nat.succ_le_succ before)

theorem exists_value (draw : UInt64) : ∃ drawn, value draw = .ok drawn ∧ drawn.InRange := by
  obtain ⟨finite, -⟩ := scaled_nearestTo draw
  have below := numberAt_scaled_succ draw
  have range : (valueRange : ℚ) = 10 ^ 6 := by norm_num [valueRange]
  rw [range] at below
  obtain ⟨shortest, n, isShortest, -, floor, -, made⟩ :=
    MetricValue.exists_ofBinary64 finite (below.trans_lt (by norm_num))
  have reads : Binary64.Reads (scaled draw).bits.toNat shortest :=
    (Binary64.nearestTo_iff finite shortest.value_nonneg).mp isShortest.reads
  have most : shortest.value ≤ 10 ^ 6 := reads.le_next.trans below
  have few : (n : ℤ) ≤ 10 ^ 8 := by
    rw [floor, ← Int.lt_add_one_iff, Int.floor_lt]
    push_cast
    linarith
  have few' : (n : ℚ) ≤ 10 ^ 8 := by exact_mod_cast few
  have number : Decimal.value ⟨n, 2⟩ = (n : ℚ) / 10 ^ 2 := rfl
  refine ⟨_, made, rfl, ?_, ?_⟩
  · rw [number]
    positivity
  · rw [number, range]
    linarith

/-- The draws of a place on are all taken: what follows them is drawn from the place behind. -/
theorem values_add {key : Key} {place count : ℕ} {drawn : List MetricValue}
    (found : values key place count = .ok drawn) (more : ℕ) :
    values key place (count + more) = (values key (place + count) more).map (drawn ++ ·) := by
  induction count generalizing place drawn with
  | zero =>
    obtain rfl := Except.ok.inj found
    rw [Nat.zero_add, Nat.add_zero]
    cases values key place more <;> rfl
  | succ count ih =>
    obtain ⟨head, first, rest⟩ := bind_eq_ok_iff.mp found
    obtain ⟨tail, later, same⟩ := bind_eq_ok_iff.mp rest
    obtain rfl := pure_eq_ok_iff.mp same
    have shift : place + 1 + count = place + (count + 1) := by omega
    rw [Nat.succ_add, values, first, ih later, shift]
    cases values key (place + (count + 1)) more <;> rfl

theorem exists_values_inRange (key : Key) (place count : ℕ) : ∃ drawn,
    values key place count = .ok drawn ∧ ∀ value ∈ drawn, value.InRange := by
  have drawable : ∀ i < count, ∃ drawn, value (draw key (place + i)) = .ok drawn := fun i _ =>
    (exists_value (draw key (place + i))).imp fun _ => And.left
  obtain ⟨drawn, found⟩ := exists_values drawable
  refine ⟨drawn, found, fun drawn' member => ?_⟩
  have listed : (.ok drawn' : Except EncodingError MetricValue) ∈ drawn.map .ok :=
    List.mem_map_of_mem member
  rw [values_eq_ok_iff.mp found] at listed
  obtain ⟨i, -, made⟩ := List.mem_map.mp listed
  obtain ⟨other, made', inRange⟩ := exists_value (draw key (place + i))
  rw [made] at made'
  obtain rfl := Except.ok.inj made'
  exact inRange

end Random

theorem Recipe.drawable (x : Recipe) : x.Drawable := fun place _ =>
  (Random.exists_value (Random.draw x.key place)).imp fun _ => And.left

/-- Each draw is rounded to the double nearest to its part of the value range. From any place of any
stream any number of values is drawn, one from each draw in turn, and all of them are in the range;
so a generator gives no error instead of a record. -/
theorem Generator.draws_in_range :
    (∀ draw, Random.part draw < 2 ^ 53 ∧
      (Random.scaled draw).NearestTo ((Random.part draw : ℚ) / 2 ^ 53 * Random.valueRange)) ∧
    (∀ key place count, ∃ drawn, Random.values key place count = .ok drawn ∧
      drawn.length = count ∧
      drawn.map .ok = (List.range count).map (fun i => Random.value (Random.draw key (place + i))) ∧
      (∀ more, Random.values key place (count + more) =
        (Random.values key (place + count) more).map (drawn ++ ·)) ∧
      ∀ value ∈ drawn, value.InRange) ∧
    ∀ x : Generator, x.nextRecord = (.ok none, x) ∨
      ∃ record, x.nextRecord.1 = .ok (some record) ∧
        Random.values x.recipe.key x.place x.recipe.catalog.size = .ok record.values ∧
        x.nextRecord.2.place = x.place + x.recipe.catalog.size ∧
        x.nextRecord.2.produced = x.produced + 1 ∧ ∀ value ∈ record.values, value.InRange := by
  refine ⟨fun draw => ⟨Random.part_lt draw, (Random.scaled_nearestTo draw).2⟩,
    fun key place count => ?_, fun x => ?_⟩
  · obtain ⟨drawn, found, inRange⟩ := Random.exists_values_inRange key place count
    have each := Random.values_eq_ok_iff.mp found
    have length := congrArg List.length each
    rw [List.length_map, List.length_map, List.length_range] at length
    exact ⟨drawn, found, length, each, Random.values_add found, inRange⟩
  · unfold nextRecord
    dsimp only
    split
    · exact .inl rfl
    · obtain ⟨drawn, found, inRange⟩ :=
        Random.exists_values_inRange x.recipe.key x.place x.recipe.catalog.size
      right
      simp only [Recipe.record, found]
      exact ⟨_, rfl, rfl, rfl, rfl, inRange⟩

end LoadSeries

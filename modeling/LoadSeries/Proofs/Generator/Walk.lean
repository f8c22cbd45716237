import LoadSeries.Proofs.Generator.Place

/-!
Calls of a generator in any mix. The state behind a row of calls depends on the number of those
alone that move on, and so does the answer to the next call.
-/
namespace LoadSeries
open Text

namespace Generator

inductive Call where
  | nextRecord
  | advance
  | next
  | sizeHint
deriving DecidableEq, Repr

inductive Answer where
  | record (result : Except EncodingError (Option Record))
  | bytes (result : Except EncodingError (Option Bytes))
  | item (result : Option (Except EncodingError Bytes))
  | bounds (bounds : Nat × Nat)

def perform (x : Generator) : Call → Answer × Generator
  | .nextRecord => (.record x.nextRecord.1, x.nextRecord.2)
  | .advance => (.bytes x.advance.1, x.advance.2)
  | .next => (.item x.next?.1, x.next?.2)
  | .sizeHint => (.bounds x.sizeBounds, x)

def after (x : Generator) (calls : List Call) : Generator :=
  calls.foldl (fun y call => (y.perform call).2) x

@[simp] theorem after_nil (x : Generator) : x.after [] = x := rfl

@[simp] theorem after_cons (x : Generator) (call : Call) (calls : List Call) :
    x.after (call :: calls) = (x.perform call).2.after calls := rfl

end Generator

namespace Recipe

variable {x : Recipe}

/-- The answer to a call at a place: a record, or none at the end, with so many records to come. -/
def answer (x : Recipe) (left : Nat) (record? : Option Record) : Generator.Call → Generator.Answer
  | .nextRecord => .record (.ok record?)
  | .advance =>
    .bytes <| match record? with
      | none => .ok none
      | some record => (x.encode record).map some
  | .next => .item (record?.map x.encode)
  | .sizeHint => .bounds (left, left)

theorem advance_generatorAt (accepted : x.cadence.Accepted) {k : Nat} {record : Record}
    (inside : k < x.cadence.totalRecords) (found : x.recordAt k = .ok record) :
    (x.generatorAt k).advance = ((x.encode record).map some, x.generatorAt (k + 1)) := by
  have step := nextRecord_generatorAt accepted inside
  rw [found] at step
  simp only [Generator.advance, step]
  rfl

/-- Whether the record can be encoded makes no difference to the generator. -/
theorem next?_generatorAt (accepted : x.cadence.Accepted) {k : Nat} {record : Record}
    (inside : k < x.cadence.totalRecords) (found : x.recordAt k = .ok record) :
    (x.generatorAt k).next? = (some (x.encode record), x.generatorAt (k + 1)) := by
  have step := advance_generatorAt accepted inside found
  unfold Generator.next?
  rw [step]
  cases x.encode record <;> rfl

theorem advance_end (accepted : x.cadence.Accepted) :
    (x.generatorAt x.cadence.totalRecords).advance =
      (.ok none, x.generatorAt x.cadence.totalRecords) := by
  simp only [Generator.advance, nextRecord_end accepted]

theorem next?_end (accepted : x.cadence.Accepted) :
    (x.generatorAt x.cadence.totalRecords).next? =
      (none, x.generatorAt x.cadence.totalRecords) := by
  simp only [Generator.next?, advance_end accepted]

/-- Every draw of the data set has a decimal. -/
def Drawable (x : Recipe) : Prop :=
  ∀ place < x.cadence.totalRecords * x.catalog.size,
    ∃ value, Random.value (Random.draw x.key place) = .ok value

theorem exists_recordAt (drawable : x.Drawable) {k : Nat} (inside : k < x.cadence.totalRecords) :
    ∃ record, x.recordAt k = .ok record := by
  obtain ⟨values, drawn⟩ : ∃ values,
      Random.values x.key (k * x.catalog.size) x.catalog.size = .ok values := by
    apply Random.exists_values
    intro i small
    apply drawable
    calc
      k * x.catalog.size + i < k * x.catalog.size + x.catalog.size := by omega
      _ = (k + 1) * x.catalog.size := by rw [Nat.add_mul, Nat.one_mul]
      _ ≤ x.cadence.totalRecords * x.catalog.size := Nat.mul_le_mul_right _ inside
  exact ⟨_, bind_eq_ok_iff.mpr ⟨values, drawn, rfl⟩⟩

def small : Recipe where
  cadence := ⟨3, 4, 2, 1000, 10⟩
  tables := .standard
  catalog := ⟨["voltage"]⟩
  encoder := .standard
  userType := 0
  key := .ofSeed 7

def smallDraws : List UInt64 :=
  [559256596868823998, 5664742077951270790, 2631283358781127885, 10007675695454462105]

theorem small_drawable : small.Drawable := by
  have draws : (List.range 4).map (Random.draw small.key) = smallDraws := by decide +kernel
  have values : smallDraws.all (fun drawn => (Random.value drawn).isOk) = true := by
    decide +kernel
  intro place inside
  have listed : Random.draw small.key place ∈ smallDraws := by
    rw [← draws]
    exact List.mem_map_of_mem (List.mem_range.mpr inside)
  exact exists_of_isOk (List.all_eq_true.mp values _ listed)

end Recipe

end LoadSeries

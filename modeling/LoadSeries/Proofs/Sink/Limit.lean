import LoadSeries.Proofs.Pipeline.Outcome
import LoadSeries.Sink.Writer

/-!
A storage with a limit as a sink. It accepts a record if the limit leaves room for the record and
its ending; of one that it refuses it keeps the record without the ending, if that much has room.
What it holds behind a row of accepted records is each of them with its ending.
-/
namespace LoadSeries
open Text

namespace Writer

variable {x : Writer} {storage rest : Storage}

/-- Records, one behind the other, each with its ending. -/
def terminated (x : Writer) (records : List Bytes) : Bytes :=
  (records.map (· ++ x.ending)).flatten

@[simp] theorem terminated_nil : x.terminated [] = [] := rfl

theorem terminated_append (front back : List Bytes) :
    x.terminated (front ++ back) = x.terminated front ++ x.terminated back := by
  simp [terminated]

@[simp] theorem terminated_singleton (record : Bytes) :
    x.terminated [record] = record ++ x.ending := by
  simp [terminated]

/-- The limit leaves room for so many bytes. -/
def Holds (x : Writer) (size : Nat) : Prop := ∀ most ∈ x.limit, size ≤ most

instance (size : Nat) : Decidable (x.Holds size) :=
  inferInstanceAs (Decidable (∀ most ∈ x.limit, size ≤ most))

theorem Holds.mono {size less : Nat} (holds : x.Holds size) (le : less ≤ size) : x.Holds less :=
  fun most limit => le.trans (holds most limit)

theorem Holds.of_isPrefix {records all : List Bytes} (holds : x.Holds (x.terminated all).length)
    (front : records <+: all) : x.Holds (x.terminated records).length := by
  obtain ⟨later, rfl⟩ := front
  rw [terminated_append, List.length_append] at holds
  exact holds.mono (Nat.le_add_right _ _)

/-- The storage knows its size, and keeps to the limit. -/
structure Kept (x : Writer) (storage : Storage) : Prop where
  size_eq : storage.size = storage.bytes.length
  holds : x.Holds storage.size

theorem kept_empty : x.Kept .empty := ⟨rfl, fun _ _ => Nat.zero_le _⟩

theorem Kept.holds_length (kept : x.Kept storage) : x.Holds storage.bytes.length :=
  kept.size_eq ▸ kept.holds

theorem put_of_holds {bytes : Bytes} (kept : x.Kept storage)
    (holds : x.Holds (storage.size + bytes.length)) :
    ∃ next, storage.put x.limit bytes = .ok next ∧ x.Kept next ∧
      next.bytes = storage.bytes ++ bytes := by
  have stored : (⟨bytes :: storage.newestFirst, storage.size + bytes.length⟩ : Storage).bytes =
      storage.bytes ++ bytes := by simp [Storage.bytes]
  refine ⟨⟨bytes :: storage.newestFirst, storage.size + bytes.length⟩, ?_, ⟨?_, holds⟩, stored⟩
  · unfold Storage.put
    cases limit : x.limit with
    | none => rfl
    | some most => exact if_pos (.inr (holds most limit))
  · rw [stored, List.length_append, kept.size_eq]

theorem put_of_not_holds {bytes : Bytes} (kept : x.Kept storage)
    (exceeds : ¬ x.Holds (storage.size + bytes.length)) :
    storage.put x.limit bytes = .error Storage.full := by
  unfold Storage.put
  cases limit : x.limit with
  | none =>
    have unlimited : x.Holds (storage.size + bytes.length) := by simp [Holds, limit]
    exact absurd unlimited exceeds
  | some most =>
    have less : ¬ storage.size + bytes.length ≤ most := by simpa [Holds, limit] using exceeds
    -- Nothing at all would have fitted, so the bytes are not empty.
    have within : storage.size ≤ most := kept.holds most limit
    have filled : bytes.isEmpty ≠ true := by
      intro empty
      rw [List.isEmpty_iff.mp empty] at less
      exact less within
    exact if_neg (by simp [filled, less])

theorem write_of_holds {record : Bytes} (kept : x.Kept storage)
    (holds : x.Holds (storage.size + (record ++ x.ending).length)) :
    ∃ next, x.sink.write storage record = (.ok (record ++ x.ending).length, next) ∧
      x.Kept next ∧ next.bytes = storage.bytes ++ (record ++ x.ending) := by
  rw [List.length_append, ← Nat.add_assoc] at holds
  obtain ⟨stored, first, kept', bytes⟩ := put_of_holds kept (holds.mono (Nat.le_add_right _ _))
  have size : stored.size = storage.size + record.length := by
    rw [kept'.size_eq, bytes, List.length_append, kept.size_eq]
  have fits : x.Holds (stored.size + x.ending.length) := by rwa [size]
  obtain ⟨next, second, kept'', bytes'⟩ := put_of_holds kept' fits
  refine ⟨next, ?_, kept'', by rw [bytes', bytes, List.append_assoc]⟩
  simp [sink, write, first, second]

theorem write_of_not_holds {record : Bytes} (kept : x.Kept storage)
    (exceeds : ¬ x.Holds (storage.size + (record ++ x.ending).length)) :
    ∃ next, x.sink.write storage record = (.error Storage.full, next) ∧
      next.bytes = storage.bytes ++
        if x.Holds (storage.size + record.length) then record else [] := by
  by_cases room : x.Holds (storage.size + record.length)
  · obtain ⟨stored, first, kept', bytes⟩ := put_of_holds kept room
    have size : stored.size = storage.size + record.length := by
      rw [kept'.size_eq, bytes, List.length_append, kept.size_eq]
    rw [List.length_append, ← Nat.add_assoc, ← size] at exceeds
    have second := put_of_not_holds kept' exceeds
    exact ⟨stored, by simp [sink, write, first, second], by rw [bytes, if_pos room]⟩
  · have first := put_of_not_holds kept room
    exact ⟨storage, by simp [sink, write, first], by rw [if_neg room, List.append_nil]⟩

/-- What is stored behind a row of accepted records, and what they were said to take up. -/
theorem stored_of_accepted {writes : List (Bytes × Nat)} (kept : x.Kept storage)
    (answers : x.sink.Answers storage (writes.map Event.accepting) rest) :
    x.Kept rest ∧ rest.bytes = storage.bytes ++ x.terminated (writes.map (·.1)) ∧
      (writes.map (·.2)).sum = (x.terminated (writes.map (·.1))).length := by
  induction writes using List.reverseRecOn generalizing rest with
  | nil =>
    rw [Sink.Answers.of_nil answers]
    exact ⟨kept, by simp, rfl⟩
  | append_singleton writes write ih =>
    obtain ⟨record, size⟩ := write
    rw [List.map_append] at answers
    obtain ⟨before, earlier, ⟨record, result, same, answer⟩ | ⟨result, same, -⟩⟩ :=
      answers.of_snoc
    · cases same
      obtain ⟨kept', bytes, sum⟩ := ih earlier
      by_cases holds : x.Holds (before.size + (record ++ x.ending).length)
      · obtain ⟨next, accepted, kept'', bytes'⟩ := write_of_holds kept' holds
        rw [accepted] at answer
        cases answer
        refine ⟨kept'', ?_, ?_⟩
        · rw [bytes', bytes, List.map_append, terminated_append, List.append_assoc]
          simp
        · rw [List.map_append, List.map_append, List.sum_append, sum, terminated_append,
            List.length_append]
          simp
      · obtain ⟨next, refused, -⟩ := write_of_not_holds kept' holds
        rw [refused] at answer
        cases answer
    · cases same

end Writer

end LoadSeries

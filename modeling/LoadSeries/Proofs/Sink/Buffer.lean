import LoadSeries.Proofs.Sink.Storage

/-!
A buffer in front of a file or of standard output. It passes bytes on late and in portions of its
own, but in their order, and once it is flushed all of them have been passed on.
-/
namespace LoadSeries
open Text

/-- The bytes that a buffer has passed on, and those that it holds. -/
structure Buffer where
  passed : Bytes
  held : Bytes
deriving DecidableEq, Repr

namespace Buffer

def empty : Buffer := ⟨[], []⟩

def bytes (x : Buffer) : Bytes := x.passed ++ x.held

def passOn (x : Buffer) : Buffer := ⟨x.passed ++ x.held, []⟩

/-- Makes room for so many bytes. What is held is passed on unless they fit behind it. -/
def spare (capacity : Nat) (x : Buffer) (count : Nat) : Buffer :=
  if x.held.length + count ≤ capacity then x else x.passOn

/-- Takes bytes in. Those that would fill the buffer by themselves go past it. -/
def put (capacity : Nat) (x : Buffer) (bytes : Bytes) : Buffer :=
  let y := x.spare capacity bytes.length
  if bytes.length < capacity then ⟨y.passed, y.held ++ bytes⟩ else ⟨y.passed ++ bytes, y.held⟩

def sink (capacity : Nat) (ending : Bytes) : Sink Buffer where
  write x record :=
    (.ok (record.length + ending.length), (x.put capacity record).put capacity ending)
  flush x := (.ok (), x.passOn)

variable {capacity count : Nat} {x : Buffer} {ending : Bytes}

@[simp] theorem bytes_passOn : x.passOn.bytes = x.bytes := by
  simp [bytes, passOn]

theorem bytes_spare : (x.spare capacity count).bytes = x.bytes := by
  unfold spare
  split
  · rfl
  · exact bytes_passOn

/-- When as many bytes come as the buffer has room for, it holds nothing in front of them. -/
theorem held_spare (fills : capacity ≤ count) : (x.spare capacity count).held = [] := by
  unfold spare
  split
  · rename_i fits
    exact List.eq_nil_of_length_eq_zero (by omega)
  · rfl

@[simp] theorem bytes_put (bytes : Bytes) : (x.put capacity bytes).bytes = x.bytes ++ bytes := by
  have spared : (x.spare capacity bytes.length).passed ++ (x.spare capacity bytes.length).held =
      x.bytes := bytes_spare
  unfold put
  split
  · change _ ++ (_ ++ bytes) = _
    rw [← List.append_assoc, spared]
  · rename_i more
    -- What is held would come behind these bytes, but nothing is.
    have none := held_spare (x := x) (Nat.not_lt.mp more)
    rw [none, List.append_nil] at spared
    change _ ++ _ ++ _ = _
    rw [none, List.append_nil, spared]

theorem collects : (sink capacity ending).Collects ending bytes where
  write answer := by
    cases answer
    exact ⟨rfl, by simp⟩
  flush answer := by
    cases answer
    exact ⟨rfl, bytes_passOn⟩
  quiet _ := rfl

/-- Behind a flush nothing is held back. -/
theorem passed_of_flushed {state rest : Buffer} {calls : List Event} {result : Except String Unit}
    (answers : (sink capacity ending).Answers state (calls ++ [.flushed result]) rest) :
    rest.passed = rest.bytes := by
  obtain ⟨before, -, ⟨_, _, same, -⟩ | ⟨_, -, answer⟩⟩ := answers.of_snoc
  · cases same
  · cases answer
    exact (List.append_nil _).symm

end Buffer

end LoadSeries

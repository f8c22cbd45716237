import LoadSeries.Dataset.Cadence

/-! The place of a generator in its data set: a user, counted from the first, and a sample. -/
namespace LoadSeries

structure Cursor where
  userOffset : Nat
  sample : Nat
deriving DecidableEq, Repr

namespace Cursor

def origin : Cursor := ⟨0, 0⟩

/-- The user at the cursor, unless the last one is passed. Offsets are words of 64 bits, whose
upper half stands for negative numbers. -/
def user? (x : Cursor) (first last : Int32) : Option Int32 :=
  let user := first.toInt + (Int64.ofNat x.userOffset).toInt
  if last.toInt < user then none else some (Int32.ofInt user)

/-- The next sample, which is the first one of the next user behind the last. -/
def advance (x : Cursor) (samplesPerUser : Nat) : Cursor :=
  if samplesPerUser ≤ x.sample + 1 then ⟨x.userOffset + 1, 0⟩ else ⟨x.userOffset, x.sample + 1⟩

end Cursor

end LoadSeries

/-!
When a consumer may stop: after two empty polls in a row, each of which found the producer finished.
-/
namespace LoadSeries

structure DrainGuard where
  confirmations : UInt8
deriving DecidableEq, Repr

namespace DrainGuard

/-- Empty polls in a row that let the consumer stop. -/
def required : UInt8 := 2

def fresh : DrainGuard := ⟨0⟩

def observePop (_ : DrainGuard) : DrainGuard := fresh

def confirm (x : DrainGuard) : DrainGuard :=
  ⟨if x.confirmations = 255 then 255 else x.confirmations + 1⟩

/-- A poll came back empty; says whether the consumer may stop. -/
def observeIdle (x : DrainGuard) (producerFinished : Bool) : DrainGuard × Bool :=
  if producerFinished then
    let next := x.confirm
    (next, decide (required ≤ next.confirmations))
  else (fresh, false)

end DrainGuard

end LoadSeries

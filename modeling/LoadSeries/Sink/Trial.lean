import LoadSeries.Sink.Writer

/-! A sink put to the test: planned faults before it, and a record of what it accepted. -/
namespace LoadSeries

open Text

structure Faults where
  /-- The number of accepted records at which the next write is refused. -/
  failAt : Option Nat
  /-- The number of accepted records at which the run is cancelled. -/
  cancelAt : Option Nat
  failFlush : Bool
deriving DecidableEq, Repr

structure Trial (τ : Type) where
  inner : τ
  newestFirst : List Bytes
  /-- The number of records accepted. -/
  count : Nat
  /-- The number of flushes that went well. -/
  flushes : Nat
deriving DecidableEq, Repr

namespace Trial

variable {τ : Type}

def start (inner : τ) : Trial τ := ⟨inner, [], 0, 0⟩

def accepted (x : Trial τ) : List Bytes := x.newestFirst.reverse

end Trial

namespace Faults

variable {τ : Type}

def write (x : Faults) (sink : Sink τ) (trial : Trial τ) (record : Bytes) :
    Except String Nat × Trial τ :=
  if x.failAt = some trial.count then (.error Storage.full, trial)
  else
    match sink.write trial.inner record with
    | (.error reason, inner) => (.error reason, { trial with inner })
    | (.ok bytes, inner) =>
      (.ok bytes, ⟨inner, record :: trial.newestFirst, trial.count + 1, trial.flushes⟩)

def flush (x : Faults) (sink : Sink τ) (trial : Trial τ) : Except String Unit × Trial τ :=
  if x.failFlush then (.error Storage.full, trial)
  else
    match sink.flush trial.inner with
    | (.error reason, inner) => (.error reason, { trial with inner })
    | (.ok _, inner) => (.ok (), { trial with inner, flushes := trial.flushes + 1 })

def sink (x : Faults) (sink : Sink τ) : Sink (Trial τ) where
  write := x.write sink
  flush := x.flush sink
  cancels trial := x.cancelAt = some trial.count

end Faults

end LoadSeries

/-! The life of a pipeline: one run, which ends done or failed. -/
namespace LoadSeries

inductive Lifecycle where
  | idle
  | running
  | draining
  | done
  | failed
deriving DecidableEq, Repr

namespace Lifecycle

def name : Lifecycle → String
  | idle => "idle"
  | running => "running"
  | draining => "draining"
  | done => "done"
  | failed => "failed"

def isTerminal : Lifecycle → Bool
  | done | failed => true
  | _ => false

end Lifecycle

end LoadSeries

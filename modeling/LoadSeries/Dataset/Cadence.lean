import LoadSeries.Dataset.Error

/-!
Which users a data set has and when their samples fall: an inclusive range of users, a number of
samples each, and time stamps at a fixed interval.
-/
namespace LoadSeries

open Text

structure Cadence where
  firstUser : Int32
  lastUser : Int32
  samplesPerUser : UInt32
  startMillis : Int64
  intervalMillis : Int64
deriving DecidableEq, Repr

def userCount (first last : Int32) : Nat := (last.toInt - first.toInt + 1).toNat

namespace Cadence

def fitsInt64 (n : Int) : Bool := -0x8000000000000000 ≤ n && n < 0x8000000000000000

/-- Checks a shape; its last time stamp, and the distance to it, must not overflow. -/
def check (x : Cadence) : Except ConfigError Unit :=
  if x.firstUser.toInt < 0 ∨ x.lastUser.toInt < x.firstUser.toInt then
    .error (.invalidUserRange x.firstUser.toInt x.lastUser.toInt)
  else if x.samplesPerUser.toNat = 0 then .error .noSamples
  else if x.intervalMillis.toInt ≤ 0 then
    .error (.invalidInterval (intString x.intervalMillis.toInt ++ "ms") "interval must be positive")
  else
    let lastSample := x.samplesPerUser.toNat - 1
    let distance := lastSample * x.intervalMillis.toInt
    if fitsInt64 distance && fitsInt64 (x.startMillis.toInt + distance) then .ok ()
    else .error (.timestampOverflow lastSample)

def checked (x : Cadence) : Except ConfigError Cadence := x.check.map fun _ => x

def timestampAt (x : Cadence) (sample : Nat) : Int64 :=
  Int64.ofInt (x.startMillis.toInt + sample * x.intervalMillis.toInt)

def totalRecords (x : Cadence) : Nat := userCount x.firstUser x.lastUser * x.samplesPerUser.toNat

end Cadence

end LoadSeries

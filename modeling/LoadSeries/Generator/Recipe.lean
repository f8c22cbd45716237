import LoadSeries.Dataset.Cadence
import LoadSeries.Random.Stream
import LoadSeries.Record.Encoding

/-!
All that determines the records of a run, and each record by its place: users in order, the samples
of each in order, and the draws of one random stream in the order of the fields.
-/
namespace LoadSeries

open Text

structure Recipe where
  cadence : Cadence
  tables : Tables
  catalog : Catalog
  encoder : Encoder
  /-- Shifts the kind of alarm of every user. -/
  userType : UInt32
  key : Random.Key
deriving DecidableEq, Repr

namespace Recipe

/-- The record of a user's sample, with values drawn from a place of the stream on. -/
def record (x : Recipe) (user : Int32) (sample place : Nat) : Except EncodingError Record := do
  let values ← Random.values x.key place x.catalog.size
  return {
    timestamp := x.cadence.timestampAt sample
    user
    sample
    tags := x.tables.resolve user x.userType
    values }

/-- The record of a place, counted from 0. -/
def recordAt (x : Recipe) (k : Nat) : Except EncodingError Record :=
  let samples := x.cadence.samplesPerUser.toNat
  x.record (Int32.ofInt (x.cadence.firstUser.toInt + (k / samples : Nat))) (k % samples)
    (k * x.catalog.size)

def encode (x : Recipe) (record : Record) : Except EncodingError Bytes :=
  x.encoder.encode record x.catalog

def bytesAt (x : Recipe) (k : Nat) : Except EncodingError Bytes := x.recordAt k >>= x.encode

end Recipe

end LoadSeries

import LoadSeries.Dataset.Cadence
import LoadSeries.Dataset.Catalog
import LoadSeries.Dataset.Interval
import LoadSeries.Dataset.StartTime
import LoadSeries.Dataset.Tables

/-! The description of a data set and its validation. -/
namespace LoadSeries

structure UserRange where
  first : Int32
  last : Int32
deriving DecidableEq, Repr

structure Schema where
  version : UInt32
  seed : Option UInt64
  metric : String
  users : UserRange
  samplesPerUser : UInt32
  startTime : StartTime
  interval : String
  fields : List String
  tables : Tables
deriving DecidableEq, Repr

namespace Schema

def standardMetric : String := "electric"

def cadence (x : Schema) : Except ConfigError Cadence := do
  let start ← x.startTime.toMillis
  let interval ← Interval.millis x.interval
  Cadence.checked
    { firstUser := x.users.first
      lastUser := x.users.last
      samplesPerUser := x.samplesPerUser
      startMillis := start
      intervalMillis := interval }

def catalog (x : Schema) : Except ConfigError Catalog := Catalog.ofNames x.fields

def validate (x : Schema) : Except ConfigError Unit :=
  if x.version ≠ 1 then .error (.unsupportedVersion x.version.toNat)
  else do
    let _ ← x.cadence
    let _ ← x.catalog
    x.tables.check

def totalRecords (x : Schema) : Nat := userCount x.users.first x.users.last * x.samplesPerUser.toNat

end Schema

end LoadSeries

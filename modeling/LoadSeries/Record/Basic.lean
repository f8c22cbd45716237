import LoadSeries.Dataset.Catalog
import LoadSeries.Dataset.Tables
import LoadSeries.Record.MetricValue

/-! A record: one sample of one user, with its tags and its metric values. -/
namespace LoadSeries

structure Record where
  timestamp : Int64
  user : Int32
  /-- The place of the sample within the series of its user. -/
  sample : Nat
  tags : Tags
  values : List MetricValue
deriving DecidableEq, Repr

namespace Record

def seriesTags (x : Record) : List (String × String) := x.tags.series x.user

def checkFields (x : Record) (catalog : Catalog) : Except EncodingError Unit :=
  if catalog.isEmpty then .error .emptyFieldCatalog
  else if x.values.length ≠ catalog.size then
    .error (.fieldCountMismatch catalog.size x.values.length)
  else .ok ()

theorem checkFields_eq_ok_iff {x : Record} {catalog : Catalog} :
    x.checkFields catalog = .ok () ↔
      catalog.names ≠ [] ∧ x.values.length = catalog.names.length := by
  unfold checkFields Catalog.isEmpty Catalog.size
  by_cases empty : catalog.names = []
  · simp [empty]
  · by_cases counted : x.values.length = catalog.names.length
    · simp [empty, counted]
    · simp [empty, counted]

end Record

end LoadSeries

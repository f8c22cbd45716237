import LoadSeries.Record.SeriesKey
import LoadSeries.Record.Wire

/-!
A record as a request to store one point: the names of the fields, and a point of a time stamp, a
series key and the values as doubles.
-/
namespace LoadSeries.Point

open Text

def packed (record : Record) : Bytes := record.values.flatMap (·.double.littleEndian)

def pointFields (record : Record) (key : List Char) : List Wire.Field :=
  [⟨1, .number (Wire.word record.timestamp)⟩, ⟨2, .run (utf8 key)⟩, ⟨3, .run (packed record)⟩]

def requestFields (record : Record) (catalog : Catalog) (key : List Char) : List Wire.Field :=
  catalog.names.map (fun name => ⟨1, .run (stringBytes name)⟩) ++
    [⟨2, .run (Wire.message (pointFields record key))⟩]

def request (metric : String) (record : Record) (catalog : Catalog) :
    Except EncodingError Bytes := do
  record.checkFields catalog
  let key ← SeriesKey.encode metric record
  return Wire.message (requestFields record catalog key)

end LoadSeries.Point

import LoadSeries.Record.Basic

/-!
The key of a record's series: the metric, and each tag of the series as a key and a value. Neither
the metric nor a value holds a delimiter, so that a key can be cut back into its parts.
-/
namespace LoadSeries.SeriesKey

def tagDelimiter : Char := ','

def valueDelimiter : Char := '='

def isDelimiter (c : Char) : Bool := c == tagDelimiter || c == valueDelimiter

def check (tag value : String) : Except EncodingError Unit :=
  match value.toList.find? isDelimiter with
  | some character => .error (.reservedCharacter tag value character)
  | none => .ok ()

def tagsText : List (String × String) → List Char
  | [] => []
  | (tag, value) :: rest =>
    tagDelimiter :: (tag.toList ++ valueDelimiter :: value.toList) ++ tagsText rest

def checkAll : List (String × String) → Except EncodingError Unit
  | [] => .ok ()
  | (tag, value) :: rest => check tag value >>= fun _ => checkAll rest

def encode (metric : String) (record : Record) : Except EncodingError (List Char) := do
  checkAll (("metric", metric) :: record.seriesTags)
  return metric.toList ++ tagsText record.seriesTags

end LoadSeries.SeriesKey

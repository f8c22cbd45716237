import LoadSeries.Proofs.Decimal.Reading
import LoadSeries.Proofs.Record.Columns
import LoadSeries.Proofs.Record.Message
import LoadSeries.Proofs.Record.Series

/-!
What a record says to a reader. A line is read by the places of its columns, a request by the
names in it; the tags stand in another order there, and the values in another form. Both are read as
the same data.
-/
namespace LoadSeries
open Text

structure Reading where
  timestamp : Int
  user : String
  tags : Tags
  /-- The values in order, each under the name of its field. -/
  values : List (String × Binary64)
deriving DecidableEq, Repr

def Record.reading (x : Record) (catalog : Catalog) : Reading where
  timestamp := x.timestamp.toInt
  user := intString x.user.toInt
  tags := x.tags
  values := catalog.names.zip (x.values.map (·.double))

theorem Record.map_fst_reading {x : Record} {catalog : Catalog}
    (counted : x.values.length = catalog.names.length) :
    (x.reading catalog).values.map (·.1) = catalog.names :=
  List.map_fst_zip (by rw [List.length_map, counted])

theorem mapM_map_of_some {α β γ : Type} {read : β → Option γ} {write : α → β} {value : α → γ}
    {items : List α} (back : ∀ item ∈ items, read (write item) = some (value item)) :
    (items.map write).mapM read = some (items.map value) := by
  induction items with
  | nil => rfl
  | cons item rest ih =>
    have later := ih fun other member => back other (List.mem_cons_of_mem item member)
    rw [List.map_cons, List.mapM_cons, back item List.mem_cons_self, later]
    rfl

namespace Line

/-- Reads the columns of a line whose last ones are values of the fields named. -/
def readCells? (names : List String) : List (List Char) → Option Reading
  | stamp :: user :: province :: district :: system :: mpid :: alarm :: line :: area :: values => do
    let timestamp ← (readInt64 stamp).toOption
    let doubles ← values.mapM Binary64.ofText?
    if doubles.length = names.length then
      return {
        timestamp
        user := String.ofList user
        tags := ⟨String.ofList province, String.ofList district, String.ofList system,
          String.ofList mpid, String.ofList alarm, String.ofList line, String.ofList area⟩
        values := names.zip doubles }
    else none
  | _ => none

def reading? (separator : Char) (names : List String) (row : Bytes) : Option Reading :=
  (strictText? row).bind fun text => readCells? names (cut separator text)

variable {separator : Char} {record : Record} {catalog : Catalog} {row : Bytes}

theorem readCells?_cells (counted : record.values.length = catalog.names.length)
    (drawn : ∀ value ∈ record.values, Binary64.ofText? value.text = some value.double) :
    readCells? catalog.names record.cells = some (record.reading catalog) := by
  have doubles : (record.values.map (·.text)).mapM Binary64.ofText? =
      some (record.values.map (·.double)) := mapM_map_of_some drawn
  simp only [readCells?, Record.cells, List.cons_append, List.nil_append, readInt64_intText,
    Except.toOption, doubles, Option.bind_eq_bind, Option.bind_some, List.length_map, counted,
    if_true, String.ofList_toList]
  rfl

theorem reading?_of_encode (encoded : (Encoder.text separator).encode record catalog = .ok row)
    (drawn : ∀ value ∈ record.values, Binary64.ofText? value.text = some value.double) :
    reading? separator catalog.names row = some (record.reading catalog) := by
  obtain ⟨writable, rfl⟩ := Encoder.text_eq_ok_iff.mp encoded
  rw [reading?, strictText?_utf8, Option.bind_some, writable.cut_join]
  exact readCells?_cells writable.counted drawn

end Line

namespace SeriesKey

/-- A part of a key as a name and a value. -/
def tag? (part : List Char) : Option (String × String) :=
  match part.splitOn valueDelimiter with
  | [name, value] => some (String.ofList name, String.ofList value)
  | _ => none

/-- The tags of a key, which stand behind the metric. -/
def tags? (key : List Char) : Option (List (String × String)) :=
  (key.splitOn tagDelimiter).tail.mapM tag?

theorem tag?_part {tag : String × String} (plain : Plain tag) : tag? (part tag) = some tag := by
  have halves : (part tag).splitOn valueDelimiter = [tag.1.toList, tag.2.toList] :=
    splitOn_part plain
  simp only [tag?, halves, String.ofList_toList]

theorem tags?_of_encode {metric : String} {record : Record} {key : List Char}
    (encoded : encode metric record = .ok key) : tags? key = some record.seriesTags := by
  obtain ⟨unreserved, rfl⟩ := encode_eq_ok_iff.mp encoded
  have plain := plain_of_unreserved unreserved
  have metricFree := unreserved ("metric", metric) List.mem_cons_self
  have cut : (metric.toList ++ tagsText record.seriesTags).splitOn tagDelimiter =
      metric.toList :: record.seriesTags.map part := splitOn_key metricFree plain
  have tags : (record.seriesTags.map part).mapM tag? =
      some (record.seriesTags.map fun tag => tag) :=
    mapM_map_of_some fun tag member => tag?_part (plain tag member)
  rw [tags?, cut, List.tail_cons, tags, List.map_id']

end SeriesKey

/-- Tags by the names that they have in a key, and the user among them. -/
def Tags.ofSeries? (tags : List (String × String)) : Option (Tags × String) := do
  let province ← tags.lookup "PROVINCE"
  let district ← tags.lookup "DISTRICT"
  let system ← tags.lookup "SYSTEM"
  let mpid ← tags.lookup "MPID"
  let alarmType ← tags.lookup "BJLX"
  let line ← tags.lookup "LINE"
  let area ← tags.lookup "AREA"
  let user ← tags.lookup "ZCUSID"
  return ({ province, district, system, mpid, alarmType, line, area }, user)

theorem Tags.ofSeries?_series (x : Tags) (user : Int32) :
    ofSeries? (x.series user) = some (x, intString user.toInt) := rfl

namespace Point

def readPoint? (names : List String) : List Wire.Field → Option Reading
  | [⟨1, .number stamp⟩, ⟨2, .run key⟩, ⟨3, .run packed⟩] => do
    let (tags, user) ← Tags.ofSeries? (← SeriesKey.tags? (← strictText? key))
    let doubles ← doubles? packed
    if doubles.length = names.length then
      return { timestamp := stamp.toUInt64.toInt64.toInt, user, tags, values := names.zip doubles }
    else none
  | _ => none

/-- Reads a request of any length. -/
def reading? (message : Bytes) : Option Reading := do
  let (names, point) ← names? (← Wire.fields? message)
  readPoint? names (← Wire.fields? point)

variable {metric : String} {record : Record} {catalog : Catalog} {message : Bytes}

theorem readPoint?_pointFields {key : List Char}
    (counted : record.values.length = catalog.names.length)
    (keyed : SeriesKey.encode metric record = .ok key) :
    readPoint? catalog.names (pointFields record key) = some (record.reading catalog) := by
  have tags : Tags.ofSeries? record.seriesTags = some (record.tags, intString record.user.toInt) :=
    Tags.ofSeries?_series record.tags record.user
  simp only [readPoint?, pointFields, strictText?_utf8, SeriesKey.tags?_of_encode keyed, tags,
    doubles?_packed, Option.bind_eq_bind, Option.bind_some, List.length_map, counted, if_true,
    Wire.toInt64_word]
  rfl

theorem reading?_of_request (encoded : request metric record catalog = .ok message) :
    reading? message = some (record.reading catalog) := by
  obtain ⟨⟨-, counted⟩, key, keyed, rfl⟩ := request_eq_ok_iff.mp encoded
  have names := names?_fields catalog.names (Wire.message (pointFields record key))
  simp only [reading?, Wire.fields?_message, requestFields, names, Option.bind_eq_bind,
    Option.bind_some]
  exact readPoint?_pointFields counted keyed

end Point

end LoadSeries

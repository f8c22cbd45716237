import LoadSeries.Proofs.Record.Reserved

/-!
The labels by which an encoder decides on a record: the columns of the tags for a line of text, and
for a point the metric and the tags of the series key. Tags that are made up of digits, or of digits
behind a fixed word, never hold a delimiter of a key, nor an accepted separator if they are digits.
-/
namespace LoadSeries
open Text

namespace Tags

/-- The tags of a series key, but for the user. -/
def keyed (x : Tags) : List (String × String) :=
  [("AREA", x.area), ("BJLX", x.alarmType), ("DISTRICT", x.district), ("LINE", x.line),
    ("MPID", x.mpid), ("PROVINCE", x.province), ("SYSTEM", x.system)]

end Tags

namespace Tables

variable {x : Tables} {user : Int32} {userType : UInt32} {c : Char}

theorem isDigit_of_mem_mpid (member : c ∈ (x.resolve user userType).mpid.toList) :
    isDigit c = true := by
  simp only [resolve, String.toList_ofList, pointNumber] at member
  split at member <;> exact isDigit_of_mem_paddedDigits member

theorem mem_or_isDigit_of_mem_counter {label : String} {count : UInt32} {key : UInt64}
    (member : c ∈ (counter label count key).toList) : c ∈ label.toList ∨ isDigit c = true := by
  simp only [counter, natString, String.toList_append, String.toList_ofList] at member
  rcases List.mem_append.mp member with word | number
  · exact .inl word
  · exact .inr (isDigit_of_mem_digits number)

end Tables

namespace SeriesKey

theorem not_isDelimiter_of_mem_counter {label : String} {count : UInt32} {key : UInt64} {c : Char}
    (word : ∀ d ∈ label.toList, isDelimiter d = false)
    (member : c ∈ (Tables.counter label count key).toList) : isDelimiter c = false := by
  rcases Tables.mem_or_isDigit_of_mem_counter member with inside | digit
  · exact word c inside
  · exact isDelimiter_of_isDigit digit

theorem unreserved_user (user : Int32) :
    Unreserved isDelimiter [("ZCUSID", intString user.toInt)] := by
  intro label member c inside
  rw [List.mem_singleton.mp member] at inside
  simp only [intString, String.toList_ofList] at inside
  rcases isDigit_or_of_mem_intText inside with digit | rfl
  · exact isDelimiter_of_isDigit digit
  · rfl

variable {metric name value : String} {record : Record} {character : Char}

theorem metric_seriesTags (metric : String) (record : Record) :
    ("metric", metric) :: record.seriesTags =
      ("metric", metric) :: record.tags.keyed ++ [("ZCUSID", intString record.user.toInt)] := rfl

theorem encode_of_unreserved
    (unreserved : Unreserved isDelimiter (("metric", metric) :: record.tags.keyed)) :
    encode metric record = .ok (metric.toList ++ tagsText record.seriesTags) := by
  have passed := checkAll_of_unreserved (unreserved.append (unreserved_user record.user))
  rw [← metric_seriesTags] at passed
  simp only [encode, passed]
  rfl

theorem encode_of_firstReserved
    (first : FirstReserved isDelimiter (("metric", metric) :: record.tags.keyed) name value
      character) :
    encode metric record = .error (.reservedCharacter name value character) := by
  have refused := checkAll_of_firstReserved
    (first.append [("ZCUSID", intString record.user.toInt)])
  rw [← metric_seriesTags] at refused
  simp only [encode, refused]
  rfl

end SeriesKey

namespace Point

variable {metric name value : String} {record : Record} {catalog : Catalog} {character : Char}

theorem request_of_unreserved (fields : record.checkFields catalog = .ok ())
    (unreserved : Unreserved SeriesKey.isDelimiter (("metric", metric) :: record.tags.keyed)) :
    ∃ message, request metric record catalog = .ok message := by
  have key := SeriesKey.encode_of_unreserved unreserved
  refine ⟨Wire.message (requestFields record catalog
    (metric.toList ++ SeriesKey.tagsText record.seriesTags)), ?_⟩
  simp only [request, fields, key]
  rfl

theorem request_of_firstReserved (fields : record.checkFields catalog = .ok ())
    (first : FirstReserved SeriesKey.isDelimiter (("metric", metric) :: record.tags.keyed) name
      value character) :
    request metric record catalog = .error (.reservedCharacter name value character) := by
  have key := SeriesKey.encode_of_firstReserved first
  simp only [request, fields, key]
  rfl

end Point

namespace Line

variable {separator : Char} {record : Record} {catalog : Catalog} {name value : String}
  {character : Char}

theorem encode_of_unreserved (fields : record.checkFields catalog = .ok ())
    (free : isReserved separator = false)
    (unreserved : Unreserved (· == separator) record.tags.columns) :
    ∃ text, encode separator record catalog = .ok text := by
  have none : firstOffender? separator (columns record catalog) = none :=
    firstOffender?_of_unreserved free unreserved
  refine ⟨join separator ((columns record catalog).map (·.text)), ?_⟩
  simp only [encode, fields, none]
  rfl

theorem encode_of_firstReserved (fields : record.checkFields catalog = .ok ())
    (free : isReserved separator = false)
    (first : FirstReserved (· == separator) record.tags.columns name value character) :
    encode separator record catalog = .error (.reservedCharacter name value character) := by
  obtain ⟨found, rfl⟩ : firstOffender? separator (columns record catalog) =
      some ⟨name, value.toList⟩ ∧ character = separator :=
    firstOffender?_of_firstReserved free first
  simp only [encode, fields, found, String.ofList_toList]
  rfl

end Line

namespace Encoder

variable {x : Encoder} {record : Record} {catalog : Catalog} {name value : String}
  {character : Char}

/-- The texts that decide whether a record can be encoded, with the names by which a refusal calls
them, in the order in which they are looked at. -/
def labels (x : Encoder) (tags : Tags) : List (String × String) :=
  match x with
  | .text _ => tags.columns
  | .framed metric | .unframed metric => ("metric", metric) :: tags.keyed

def reserves : Encoder → Char → Bool
  | .text separator => (· == separator)
  | .framed _ | .unframed _ => SeriesKey.isDelimiter

/-- A separator, if there is one, is none of those that numbers and line ends rule out. -/
def Vetted : Encoder → Prop
  | .text separator => Line.isReserved separator = false
  | .framed _ | .unframed _ => True

/-- No label of a record with these tags holds a reserved character. -/
def Admits (x : Encoder) (tags : Tags) : Prop := Unreserved x.reserves (x.labels tags)

instance (x : Encoder) (tags : Tags) : Decidable (x.Admits tags) :=
  inferInstanceAs (Decidable (Unreserved x.reserves (x.labels tags)))

def Rejects (x : Encoder) (tags : Tags) (name value : String) (character : Char) : Prop :=
  FirstReserved x.reserves (x.labels tags) name value character

/-- The names of the labels that may hold a reserved character. -/
def decisive : Encoder → List String
  | .text _ => ["province", "district", "system", "alarm_type", "line", "area"]
  | .framed _ | .unframed _ => ["metric", "BJLX", "DISTRICT", "PROVINCE", "SYSTEM"]

theorem admits_or_rejects (x : Encoder) (tags : Tags) :
    x.Admits tags ∨ ∃ name value character, x.Rejects tags name value character :=
  unreserved_or_firstReserved x.reserves (x.labels tags)

theorem encode_of_admits (vetted : x.Vetted) (fields : record.checkFields catalog = .ok ())
    (admits : x.Admits record.tags) : ∃ bytes, x.encode record catalog = .ok bytes := by
  cases x with
  | text separator =>
    obtain ⟨text, encoded⟩ := Line.encode_of_unreserved fields vetted admits
    exact ⟨utf8 text, map_eq_ok_iff.mpr ⟨text, encoded, rfl⟩⟩
  | framed metric =>
    obtain ⟨message, encoded⟩ := Point.request_of_unreserved fields admits
    exact ⟨Frame.encode message, map_eq_ok_iff.mpr ⟨message, encoded, rfl⟩⟩
  | unframed metric =>
    obtain ⟨message, encoded⟩ := Point.request_of_unreserved fields admits
    exact ⟨lossy message, map_eq_ok_iff.mpr ⟨message, encoded, rfl⟩⟩

theorem encode_of_rejects (vetted : x.Vetted) (fields : record.checkFields catalog = .ok ())
    (rejects : x.Rejects record.tags name value character) :
    x.encode record catalog = .error (.reservedCharacter name value character) := by
  cases x with
  | text separator =>
    simp only [encode, Line.encode_of_firstReserved fields vetted rejects]
    rfl
  | framed metric | unframed metric =>
    simp only [encode, Point.request_of_firstReserved fields rejects]
    rfl

/-- Neither a padded number nor, in a point, a counter is what a record is refused for. -/
theorem name_mem_decisive {tables : Tables} {user : Int32} {userType : UInt32}
    (vetted : x.Vetted)
    (rejects : x.Rejects (tables.resolve user userType) name value character) :
    name ∈ x.decisive := by
  have label := rejects.mem_labels
  have inside := rejects.mem_value
  have held := rejects.reserved
  cases x with
  | text separator =>
    have same : character = separator := by simpa [reserves] using held
    simp only [labels, Tags.columns, List.mem_cons, Prod.mk.injEq, List.not_mem_nil,
      or_false] at label
    rcases label with ⟨rfl, -⟩ | ⟨rfl, -⟩ | ⟨rfl, -⟩ | ⟨rfl, rfl⟩ | ⟨rfl, -⟩ | ⟨rfl, -⟩ | ⟨rfl, -⟩
    case inr.inr.inr.inl =>
      have digit := Tables.isDigit_of_mem_mpid inside
      have free : Line.isReserved separator = false := vetted
      rw [← same, Line.isReserved, digit] at free
      cases free
    all_goals simp [decisive]
  | framed metric | unframed metric =>
    have held : SeriesKey.isDelimiter character = true := held
    simp only [labels, Tags.keyed, List.mem_cons, Prod.mk.injEq, List.not_mem_nil,
      or_false] at label
    have digits (digit : isDigit character = true) : False := by
      rw [SeriesKey.isDelimiter_of_isDigit digit] at held
      cases held
    rcases label with ⟨rfl, -⟩ | ⟨rfl, rfl⟩ | ⟨rfl, -⟩ | ⟨rfl, -⟩ | ⟨rfl, rfl⟩ | ⟨rfl, rfl⟩ |
      ⟨rfl, -⟩ | ⟨rfl, -⟩
    case inr.inl | inr.inr.inr.inr.inl =>
      have free : SeriesKey.isDelimiter character = false := by
        refine SeriesKey.not_isDelimiter_of_mem_counter ?_ inside
        simp [SeriesKey.isDelimiter, SeriesKey.tagDelimiter, SeriesKey.valueDelimiter]
      rw [free] at held
      cases held
    case inr.inr.inr.inr.inr.inl => exact (digits (Tables.isDigit_of_mem_mpid inside)).elim
    all_goals simp [decisive]

end Encoder

end LoadSeries

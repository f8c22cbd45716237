import LoadSeries.Proofs.Except
import LoadSeries.Proofs.Record.Frames
import LoadSeries.Proofs.Text.Utf8
import LoadSeries.Record.Encoding

/-!
Reading messages back. The fields of a message are read as they were written, also by a reader that
holds tags and lengths in 32 bits if the message is no longer than that. A request is read as the
names of its fields and one point, with the time stamp, the series key and the doubles of its
record, and has room for nothing else.
-/
namespace LoadSeries
open Text

namespace Wire

private theorem toNat_toUInt8 {n : Nat} (small : n < 256) : n.toUInt8.toNat = n := by
  have wrapped : n.toUInt8.toNat = n % 256 := UInt8.toNat_ofNat'
  rw [wrapped, Nat.mod_eq_of_lt small]

theorem takeNumber?_number (n : Nat) (rest : Bytes) :
    takeNumber? (number n ++ rest) = some (n, rest) := by
  induction n using number.induct with
  | case1 n small =>
    have byte : n.toUInt8.toNat = n := toNat_toUInt8 (by omega)
    rw [number, if_pos small, List.singleton_append, takeNumber?, byte, if_pos small]
  | case2 n great ih =>
    have byte : (n % 128 + 128).toUInt8.toNat = n % 128 + 128 := toNat_toUInt8 (by omega)
    have value : n % 128 + 128 - 128 + 128 * (n / 128) = n := by omega
    rw [number, if_neg great, List.cons_append, takeNumber?, byte, if_neg (by omega), ih]
    exact congrArg (fun value => some (value, rest)) value

theorem takeField?_bytes (field : Field) (rest : Bytes) :
    takeField? (field.bytes ++ rest) = some (field, rest) := by
  obtain ⟨index, content⟩ := field
  cases content with
  | number value =>
    have form : 8 * index % 8 = 0 := by omega
    have place : 8 * index / 8 = index := by omega
    simp only [Field.bytes, takeField?, List.append_assoc, takeNumber?_number,
      Option.bind_eq_bind, Option.bind_some, if_pos form, place]
    rfl
  | run bytes =>
    have notNumber : ¬ (8 * index + 2) % 8 = 0 := by omega
    have form : (8 * index + 2) % 8 = 2 := by omega
    have place : (8 * index + 2) / 8 = index := by omega
    have inside : bytes.length ≤ (bytes ++ rest).length := by simp
    simp only [Field.bytes, takeField?, List.append_assoc, takeNumber?_number,
      Option.bind_eq_bind, Option.bind_some, if_neg notNumber, if_pos form, if_pos inside, place,
      List.take_left, List.drop_left]
    rfl

theorem fields?_of_takeField? {bytes rest : Bytes} {field : Field}
    (taken : takeField? bytes = some (field, rest)) :
    fields? bytes = (fields? rest).map (field :: ·) := by
  cases bytes with
  | nil => cases taken
  | cons b tail =>
    rw [fields?]
    split <;> simp_all

theorem fields?_message (fields : List Field) : fields? (message fields) = some fields := by
  induction fields with
  | nil => rw [message, List.flatMap_nil, fields?]
  | cons field rest ih =>
    rw [message, List.flatMap_cons, fields?_of_takeField? (takeField?_bytes field _)]
    rw [message] at ih
    rw [ih, Option.map_some]

/-- Whether a reader can hold the tag and the length in 32 bits, or the number in 64. -/
def Field.isNarrow (x : Field) : Bool :=
  match x.content with
  | .number value => 8 * x.index < twoTo 32 && value < twoTo 64
  | .run bytes => 8 * x.index + 2 < twoTo 32 && bytes.length < twoTo 32

/-- The fields of a message that has nothing else and no field that is too wide. -/
def read? (bytes : Bytes) : Option (List Field) := (fields? bytes).filter (·.all Field.isNarrow)

theorem read?_message {fields : List Field} (narrow : ∀ field ∈ fields, field.isNarrow = true) :
    read? (message fields) = some fields := by
  rw [read?, fields?_message]
  exact Option.filter_some_pos (List.all_eq_true.mpr narrow)

/-- A run is no longer than a message that it is part of. -/
theorem length_le_message {fields : List Field} {index : Nat} {bytes : Bytes}
    (member : ⟨index, .run bytes⟩ ∈ fields) : bytes.length ≤ (message fields).length := by
  obtain ⟨before, after, rfl⟩ := List.append_of_mem member
  simp only [message, List.flatMap_append, List.flatMap_cons, List.length_append, Field.bytes]
  omega

theorem isNarrow_of_short {fields : List Field}
    (short : (message fields).length < twoTo 32) (indexed : ∀ field ∈ fields, field.index < 4)
    (numbers : ∀ index value, ⟨index, .number value⟩ ∈ fields → value < twoTo 64) :
    ∀ field ∈ fields, field.isNarrow = true := by
  rintro ⟨index, content⟩ member
  have low : index < 4 := indexed _ member
  have wide : 32 < twoTo 32 := by decide
  cases content with
  | number value =>
    have value := numbers index value member
    simp only [Field.isNarrow, Bool.and_eq_true, decide_eq_true_eq]
    exact ⟨by omega, value⟩
  | run bytes =>
    have length := length_le_message member
    simp only [Field.isNarrow, Bool.and_eq_true, decide_eq_true_eq]
    exact ⟨by omega, by omega⟩

/-- A number takes one byte for each seven bits. -/
theorem length_number {k n : Nat} (low : k = 0 ∨ 128 ^ k ≤ n) (high : n < 128 ^ (k + 1)) :
    (number n).length = k + 1 := by
  induction k generalizing n with
  | zero =>
    have small : n < 128 := by simpa using high
    rw [number, if_pos small]
    rfl
  | succ k ih =>
    rw [Nat.pow_succ] at high
    have low : 128 ^ k * 128 ≤ n := by
      rcases low with none | low
      · cases none
      · rwa [Nat.pow_succ] at low
    have positive : 0 < 128 ^ k := Nat.pow_pos (by decide)
    have great : ¬ n < 128 := by omega
    have higher : (number (n / 128)).length = k + 1 := by
      apply ih
      · exact .inr ((Nat.le_div_iff_mul_le (by decide)).mpr low)
      · exact Nat.div_lt_of_lt_mul (by omega)
    rw [number, if_neg great, List.length_cons, higher]

theorem word_lt (n : Int64) : word n < twoTo 64 := n.toUInt64.toNat_lt

theorem le_word_of_neg {n : Int64} (negative : n.toInt < 0) : twoTo 63 ≤ word n := by
  have signed : n.toInt = n.toBitVec.toInt := rfl
  have unsigned : word n = n.toBitVec.toNat := rfl
  have power : twoTo 63 = 9223372036854775808 := rfl
  rw [signed, BitVec.toInt_eq_toNat_cond] at negative
  split at negative <;> omega

theorem toInt64_word (n : Int64) : (word n).toUInt64.toInt64 = n := by
  have unsigned : (word n).toUInt64 = n.toUInt64 := UInt64.ofNat_toNat
  rw [unsigned, Int64.toInt64_toUInt64]

/-- A negative number is written with all of its 64 bits. -/
theorem length_number_word {n : Int64} (negative : n.toInt < 0) :
    (number (word n)).length = 10 := by
  have low := le_word_of_neg negative
  have high := word_lt n
  apply length_number
  · exact .inr low
  · exact high.trans (by decide)

end Wire

namespace Binary64

theorem littleEndian_eq (x : Binary64) : x.littleEndian = Frame.littleEndian 8 x.bits.toNat := by
  simp [littleEndian, List.range_succ, Frame.littleEndian, twoTo, Nat.div_div_eq_div_mul]

theorem littleEndianValue_littleEndian (x : Binary64) :
    Frame.littleEndianValue x.littleEndian = x.bits.toNat := by
  rw [littleEndian_eq, Frame.littleEndianValue_littleEndian]
  exact Nat.mod_eq_of_lt x.bits.toNat_lt

end Binary64

namespace Point

/-- The doubles of a run of bytes, eight bytes each, the lowest first. -/
def doubles? : Bytes → Option (List Binary64)
  | [] => some []
  | a :: b :: c :: d :: e :: f :: g :: h :: rest =>
    (doubles? rest).map (⟨(Frame.littleEndianValue [a, b, c, d, e, f, g, h]).toUInt64⟩ :: ·)
  | _ => none

/-- What a request holds for a reader. -/
structure Request where
  names : List String
  timestamp : Int64
  key : List Char
  doubles : List Binary64
deriving DecidableEq, Repr

/-- The names of a request and the bytes of its point, which stands alone behind them. -/
def names? : List Wire.Field → Option (List String × Bytes)
  | [⟨2, .run point⟩] => some ([], point)
  | ⟨1, .run name⟩ :: rest => do
    let name ← strictText? name
    let (names, point) ← names? rest
    return (String.ofList name :: names, point)
  | _ => none

/-- Reads a request that has its fields in order and no others, and texts in UTF-8. -/
def read? (bytes : Bytes) : Option Request := do
  let (names, point) ← names? (← Wire.read? bytes)
  match ← Wire.read? point with
  | [⟨1, .number stamp⟩, ⟨2, .run key⟩, ⟨3, .run packed⟩] =>
    return ⟨names, stamp.toUInt64.toInt64, ← strictText? key, ← doubles? packed⟩
  | _ => none

theorem doubles?_append (x : Binary64) (rest : Bytes) :
    doubles? (x.littleEndian ++ rest) = (doubles? rest).map (x :: ·) := by
  have back : (⟨(Frame.littleEndianValue x.littleEndian).toUInt64⟩ : Binary64) = x := by
    rw [Binary64.littleEndianValue_littleEndian]
    exact congrArg Binary64.mk UInt64.ofNat_toNat
  have step : doubles? (x.littleEndian ++ rest) = (doubles? rest).map
      (⟨(Frame.littleEndianValue x.littleEndian).toUInt64⟩ :: ·) := rfl
  rw [step, back]

theorem doubles?_packed (record : Record) :
    doubles? (packed record) = some (record.values.map (·.double)) := by
  unfold packed
  induction record.values with
  | nil => rfl
  | cons value rest ih => rw [List.flatMap_cons, doubles?_append, ih]; rfl

theorem names?_fields (names : List String) (point : Bytes) :
    names? (names.map (fun name => ⟨1, .run (stringBytes name)⟩) ++ [⟨2, .run point⟩]) =
      some (names, point) := by
  induction names with
  | nil => rfl
  | cons name rest ih =>
    have text : strictText? (stringBytes name) = some name.toList := strictText?_utf8 name.toList
    rw [List.map_cons, List.cons_append, names?, text, ih]
    exact congrArg (fun name => some (name :: rest, point)) String.ofList_toList

variable {metric : String} {record : Record} {catalog : Catalog} {key : List Char} {bytes : Bytes}

theorem request_eq_ok_iff : request metric record catalog = .ok bytes ↔
    (catalog.names ≠ [] ∧ record.values.length = catalog.names.length) ∧
      ∃ key, SeriesKey.encode metric record = .ok key ∧
        Wire.message (requestFields record catalog key) = bytes := by
  simp only [request, bind_eq_ok_iff, pure_eq_ok_iff, ← Record.checkFields_eq_ok_iff]
  constructor
  · rintro ⟨⟨⟩, fields, encoded⟩
    exact ⟨fields, encoded⟩
  · rintro ⟨fields, encoded⟩
    exact ⟨(), fields, encoded⟩

theorem read?_pointFields (record : Record) (key : List Char)
    (short : (Wire.message (pointFields record key)).length < twoTo 32) :
    Wire.read? (Wire.message (pointFields record key)) = some (pointFields record key) := by
  apply Wire.read?_message
  apply Wire.isNarrow_of_short short
  · simp [pointFields]
  · intro index value member
    have stamp : value = Wire.word record.timestamp := by
      simp [pointFields] at member
      exact member.2
    exact stamp ▸ Wire.word_lt record.timestamp

theorem read?_requestFields (record : Record) (catalog : Catalog) (key : List Char)
    (short : (Wire.message (requestFields record catalog key)).length < twoTo 32) :
    Wire.read? (Wire.message (requestFields record catalog key)) =
      some (requestFields record catalog key) := by
  apply Wire.read?_message
  apply Wire.isNarrow_of_short short
  · intro field member
    rcases List.mem_append.mp member with name | point
    · obtain ⟨name, -, rfl⟩ := List.mem_map.mp name
      exact (by decide : 1 < 4)
    · rw [List.mem_singleton.mp point]
      exact (by decide : 2 < 4)
  · intro index value member
    simp [requestFields] at member

theorem read?_message (record : Record) (catalog : Catalog) (key : List Char)
    (short : (Wire.message (requestFields record catalog key)).length < twoTo 32) :
    read? (Wire.message (requestFields record catalog key)) =
      some ⟨catalog.names, record.timestamp, key, record.values.map (·.double)⟩ := by
  have inner : (Wire.message (pointFields record key)).length < twoTo 32 := by
    have part : ⟨2, .run (Wire.message (pointFields record key))⟩ ∈
        requestFields record catalog key := List.mem_append_right _ (List.mem_singleton_self _)
    exact (Wire.length_le_message part).trans_lt short
  have names := names?_fields catalog.names (Wire.message (pointFields record key))
  have point := read?_pointFields record key inner
  rw [read?, read?_requestFields record catalog key short]
  simp only [Option.bind_eq_bind, Option.bind_some, requestFields, names, point]
  simp only [pointFields, strictText?_utf8, doubles?_packed, Option.bind_some, Wire.toInt64_word]
  rfl

/-- The time stamp stands in a request as a number behind the tag of the first field. -/
theorem stamp_isInfix (record : Record) (catalog : Catalog) (key : List Char) :
    8 :: Wire.number (Wire.word record.timestamp) <:+:
      Wire.message (requestFields record catalog key) := by
  have tag : Wire.number 8 = [8] := by
    rw [Wire.number]
    rfl
  have first : 8 :: Wire.number (Wire.word record.timestamp) <+:
      Wire.message (pointFields record key) := by
    simp only [Wire.message, pointFields, List.flatMap_cons, Wire.Field.bytes, Nat.mul_one, tag,
      List.singleton_append]
    exact List.prefix_append _ _
  have last : Wire.message (pointFields record key) <:+
      Wire.message (requestFields record catalog key) := by
    simp only [Wire.message, requestFields, List.flatMap_append, List.flatMap_singleton,
      Wire.Field.bytes]
    rw [← List.append_assoc]
    exact List.suffix_append _ _
  exact first.isInfix.trans last.isInfix

/-- A request is written if and only if its record has as many values as there are names, which is
not none, and a series key. A request of less than 2 ^ 32 bytes is then read back whole: as the
names, the time stamp, the series key and the doubles, all in order, and nothing else. -/
theorem request_round_trip (metric : String) (record : Record) (catalog : Catalog) :
    ((∃ bytes, request metric record catalog = .ok bytes) ↔
        catalog.names ≠ [] ∧ record.values.length = catalog.names.length ∧
          ∃ key, SeriesKey.encode metric record = .ok key) ∧
      ∀ bytes, request metric record catalog = .ok bytes → bytes.length < twoTo 32 →
        (∃ key, SeriesKey.encode metric record = .ok key ∧
          read? bytes =
            some ⟨catalog.names, record.timestamp, key, record.values.map (·.double)⟩) ∧
        8 :: Wire.number (Wire.word record.timestamp) <:+: bytes ∧
        (record.timestamp.toInt < 0 →
          (Wire.number (Wire.word record.timestamp)).length = 10) := by
  constructor
  · simp only [request_eq_ok_iff]
    constructor
    · rintro ⟨_, ⟨named, counted⟩, key, encoded, -⟩
      exact ⟨named, counted, key, encoded⟩
    · rintro ⟨named, counted, key, encoded⟩
      exact ⟨_, ⟨named, counted⟩, key, encoded, rfl⟩
  · intro bytes written short
    obtain ⟨-, key, encoded, rfl⟩ := request_eq_ok_iff.mp written
    exact ⟨⟨key, encoded, read?_message record catalog key short⟩,
      stamp_isInfix record catalog key, Wire.length_number_word⟩

end Point

def Record.earliest : Record where
  timestamp := Int64.minValue
  user := Int32.minValue
  sample := 0
  tags := Tables.standard.resolve Int32.minValue 0
  values := [.ofDecimal ⟨2205, 1⟩, .ofDecimal ⟨-1, 2⟩]

namespace Point

theorem request_round_trip_earliest : ∃ bytes key,
    request "electric" .earliest ⟨["voltage", "θ"]⟩ = .ok bytes ∧ bytes.length < twoTo 32 ∧
      read? bytes = some ⟨["voltage", "θ"], Int64.minValue, key,
        Record.earliest.values.map (·.double)⟩ ∧
      (Wire.number (Wire.word Int64.minValue)).length = 10 := by
  have sizes : (request "electric" .earliest ⟨["voltage", "θ"]⟩).toOption.any
      (·.length < twoTo 32) = true := by
    decide +kernel
  obtain ⟨bytes, some, short⟩ := Option.any_eq_true _ _ |>.mp sizes
  have written : request "electric" .earliest ⟨["voltage", "θ"]⟩ = .ok bytes := by
    cases encoded : request "electric" .earliest ⟨["voltage", "θ"]⟩ with
    | error e => simp [encoded, Except.toOption] at some
    | ok found => simpa [encoded, Except.toOption] using some
  have short : bytes.length < twoTo 32 := of_decide_eq_true short
  obtain ⟨⟨key, -, read⟩, -, ten⟩ :=
    (request_round_trip "electric" .earliest ⟨["voltage", "θ"]⟩).2 bytes written short
  exact ⟨bytes, key, written, short, read, ten (by decide)⟩

end Point

end LoadSeries

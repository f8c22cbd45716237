import LoadSeries.Proofs.Except
import LoadSeries.Proofs.Text.Digits
import LoadSeries.Proofs.Text.Pieces
import LoadSeries.Proofs.Text.Utf8
import LoadSeries.Record.Encoding

/-!
A line of text as a row of cells under their headings. A record is written if its cells match the
catalog and none of them holds the separator, and the line is then cut back into the cells;
otherwise it is refused for the first thing that is wrong. The separator may be any character.
-/
namespace LoadSeries
open Text

namespace Record

/-- The texts of a record in the order of a line. -/
def cells (x : Record) : List (List Char) :=
  [intText x.timestamp.toInt, intText x.user.toInt, x.tags.province.toList, x.tags.district.toList,
    x.tags.system.toList, x.tags.mpid.toList, x.tags.alarmType.toList, x.tags.line.toList,
    x.tags.area.toList] ++ x.values.map (·.text)

theorem length_cells (x : Record) : x.cells.length = 9 + x.values.length := by
  simp [cells]
  omega

theorem cells_ne_nil (x : Record) : x.cells ≠ [] := List.cons_ne_nil _ _

/-- The cells of a record determine it, but for the place of its sample and the doubles. -/
theorem eq_of_cells {x y : Record} (same : x.cells = y.cells) :
    x.timestamp = y.timestamp ∧ x.user = y.user ∧ x.tags = y.tags ∧
      x.values.map (·.text) = y.values.map (·.text) := by
  simp only [cells, List.cons_append, List.nil_append, List.cons.injEq, String.toList_inj] at same
  obtain ⟨stamp, user, province, district, system, mpid, alarm, line, area, values⟩ := same
  have stamp := Int64.toInt_inj.mp (intText_injective stamp)
  have user := Int32.toInt_inj.mp (intText_injective user)
  have tags : x.tags = y.tags := by
    cases left : x.tags
    cases right : y.tags
    simp_all
  exact ⟨stamp, user, tags, values⟩

end Record

/-- The names of the columns of a line. -/
def Catalog.headings (x : Catalog) : List String :=
  ["timestamp", "user_id", "province", "district", "system", "mpid", "alarm_type", "line",
    "area"] ++ x.names

namespace Line

variable {separator : Char} {record : Record} {catalog : Catalog} {text : List Char}
  {error : EncodingError}

theorem columns_eq_zipWith (record : Record) (catalog : Catalog) :
    columns record catalog = List.zipWith Column.mk catalog.headings record.cells := by
  simp [columns, Catalog.headings, Record.cells, Tags.columns, List.zipWith_map_right]

/-- A record that can be written as a line: there are names, as many as values, and no cell holds
the separator. -/
structure Writable (separator : Char) (record : Record) (catalog : Catalog) : Prop where
  named : catalog.names ≠ []
  counted : record.values.length = catalog.names.length
  free : ∀ cell ∈ record.cells, separator ∉ cell

/-- Why a record is not written as a line, the first reason in the order in which they count. -/
inductive Refuses (separator : Char) (record : Record) (catalog : Catalog) :
    EncodingError → Prop
  | unnamed (empty : catalog.names = []) : Refuses separator record catalog .emptyFieldCatalog
  | miscounted (named : catalog.names ≠ [])
      (differ : record.values.length ≠ catalog.names.length) :
      Refuses separator record catalog
        (.fieldCountMismatch catalog.names.length record.values.length)
  | reserved (named : catalog.names ≠ []) (counted : record.values.length = catalog.names.length)
      {i : Nat} (heading : i < catalog.headings.length) (cell : i < record.cells.length)
      (held : separator ∈ record.cells[i])
      (before : ∀ j (less : j < i), separator ∉ record.cells[j]) :
      Refuses separator record catalog
        (.reservedCharacter catalog.headings[i] (String.ofList record.cells[i]) separator)

theorem length_headings_eq (counted : record.values.length = catalog.names.length) :
    catalog.headings.length = record.cells.length := by
  rw [Record.length_cells, counted]
  simp [Catalog.headings]
  omega

theorem texts_columns (counted : record.values.length = catalog.names.length) :
    (columns record catalog).map (·.text) = record.cells := by
  have length := length_headings_eq counted
  rw [columns_eq_zipWith, List.map_zipWith]
  apply List.ext_getElem
  · simp [length]
  · intro i left right
    simp

theorem encode_of_writable (writable : Writable separator record catalog) :
    encode separator record catalog = .ok (join separator record.cells) := by
  have fields := Record.checkFields_eq_ok_iff.mpr ⟨writable.named, writable.counted⟩
  have none : firstOffender? separator (columns record catalog) = none := by
    refine List.find?_eq_none.mpr fun column member => ?_
    have cell : column.text ∈ record.cells := by
      rw [← texts_columns writable.counted]
      exact List.mem_map_of_mem member
    simpa using writable.free _ cell
  simp only [encode, fields, none, texts_columns writable.counted]
  rfl

theorem encode_of_refuses (refuses : Refuses separator record catalog error) :
    encode separator record catalog = .error error := by
  cases refuses with
  | unnamed empty =>
    simp only [encode, Record.checkFields, Catalog.isEmpty, empty]
    rfl
  | miscounted named differ =>
    have fields : record.checkFields catalog =
        .error (.fieldCountMismatch catalog.names.length record.values.length) := by
      simp [Record.checkFields, Catalog.isEmpty, Catalog.size, named, differ]
    simp only [encode, fields]
    rfl
  | @reserved named counted i heading cell held before =>
    have fields := Record.checkFields_eq_ok_iff.mpr ⟨named, counted⟩
    have found : firstOffender? separator (columns record catalog) =
        some ⟨catalog.headings[i], record.cells[i]⟩ := by
      rw [columns_eq_zipWith, firstOffender?, List.find?_eq_some_iff_getElem]
      refine ⟨by simpa using held, i, by simp [heading, cell], by simp, fun j less => ?_⟩
      simpa using before j less
    simp only [encode, fields, found]
    rfl

theorem writable_or_refuses (separator : Char) (record : Record) (catalog : Catalog) :
    Writable separator record catalog ∨ ∃ error, Refuses separator record catalog error := by
  by_cases empty : catalog.names = []
  · exact .inr ⟨_, .unnamed empty⟩
  by_cases counted : record.values.length = catalog.names.length
  · by_cases free : ∀ cell ∈ record.cells, separator ∉ cell
    · exact .inl ⟨empty, counted, free⟩
    -- Among the cells that hold the separator there is a first one.
    have held : ∃ i, ∃ inside : i < record.cells.length, separator ∈ record.cells[i] := by
      push Not at free
      obtain ⟨cell, member, held⟩ := free
      obtain ⟨i, inside, rfl⟩ := List.mem_iff_getElem.mp member
      exact ⟨i, inside, held⟩
    obtain ⟨inside, here⟩ := Nat.find_spec held
    refine .inr ⟨_, .reserved empty counted ?_ inside here fun j less later => ?_⟩
    · rw [length_headings_eq counted]
      exact inside
    · exact Nat.find_min held less ⟨less.trans inside, later⟩
  · exact .inr ⟨_, .miscounted empty counted⟩

theorem encode_eq_ok_iff : encode separator record catalog = .ok text ↔
    Writable separator record catalog ∧ text = join separator record.cells := by
  apply eq_ok_iff_of_either encode_of_writable encode_of_refuses
  exact writable_or_refuses separator record catalog

theorem encode_eq_error_iff : encode separator record catalog = .error error ↔
    Refuses separator record catalog error := by
  apply eq_error_iff_of_either encode_of_writable encode_of_refuses
  exact writable_or_refuses separator record catalog

theorem Writable.cut_join (writable : Writable separator record catalog) :
    cut separator (join separator record.cells) = record.cells :=
  Line.cut_join record.cells_ne_nil writable.free

end Line

namespace Encoder

variable {separator : Char} {record : Record} {catalog : Catalog} {bytes : Bytes}
  {error : EncodingError}

theorem text_eq_ok_iff : (Encoder.text separator).encode record catalog = .ok bytes ↔
    Line.Writable separator record catalog ∧ bytes = utf8 (Line.join separator record.cells) := by
  unfold encode
  rw [map_eq_ok_iff]
  constructor
  · rintro ⟨text, encoded, rfl⟩
    obtain ⟨writable, rfl⟩ := Line.encode_eq_ok_iff.mp encoded
    exact ⟨writable, rfl⟩
  · rintro ⟨writable, rfl⟩
    exact ⟨_, Line.encode_of_writable writable, rfl⟩

theorem text_eq_error_iff : (Encoder.text separator).encode record catalog = .error error ↔
    Line.Refuses separator record catalog error := by
  rw [← Line.encode_eq_error_iff]
  exact map_eq_error_iff

end Encoder

namespace Line

/-- A record is written as a line if and only if it is writable. The bytes of the line are then read
back as a text that the separator cuts into the cells of the record, so that no other data is
written in the same way; and if the record is not written, the error is the first reason against
it. -/
theorem round_trip (separator : Char) (record : Record) (catalog : Catalog) :
    ((∃ bytes, (Encoder.text separator).encode record catalog = .ok bytes) ↔
        Writable separator record catalog) ∧
      (∀ bytes, (Encoder.text separator).encode record catalog = .ok bytes →
        (strictText? bytes).map (cut separator) = some record.cells ∧
        record.cells.length = 9 + catalog.names.length ∧
        ∀ other others, (Encoder.text separator).encode other others = .ok bytes →
          other.timestamp = record.timestamp ∧ other.user = record.user ∧
            other.tags = record.tags ∧
            other.values.map (·.text) = record.values.map (·.text)) ∧
      ∀ error, (Encoder.text separator).encode record catalog = .error error ↔
        Refuses separator record catalog error := by
  have read {x : Record} {names : Catalog} {bytes : Bytes}
      (encoded : (Encoder.text separator).encode x names = .ok bytes) :
      (strictText? bytes).map (cut separator) = some x.cells := by
    obtain ⟨writable, rfl⟩ := Encoder.text_eq_ok_iff.mp encoded
    rw [strictText?_utf8, Option.map_some, writable.cut_join]
  refine ⟨?_, ?_, fun error => Encoder.text_eq_error_iff⟩
  · constructor
    · rintro ⟨bytes, encoded⟩
      exact (Encoder.text_eq_ok_iff.mp encoded).1
    · intro writable
      exact ⟨_, Encoder.text_eq_ok_iff.mpr ⟨writable, rfl⟩⟩
  · intro bytes encoded
    have counted := (Encoder.text_eq_ok_iff.mp encoded).1.counted
    refine ⟨read encoded, by rw [Record.length_cells, counted], fun other others again => ?_⟩
    have same : other.cells = record.cells :=
      Option.some.inj ((read again).symm.trans (read encoded))
    exact Record.eq_of_cells same

end Line

def Record.beforeEpoch : Record where
  timestamp := -5
  user := 3
  sample := 0
  tags := Tables.standard.resolve 3 0
  values := [.ofDecimal ⟨2205, 1⟩]

namespace Line

/-- A separator of three bytes keeps the columns apart, and one that the line's name holds is
refused for it. -/
theorem round_trip_beforeEpoch :
    ∃ bytes, (Encoder.text '→').encode .beforeEpoch ⟨["voltage"]⟩ = .ok bytes ∧
      (strictText? bytes).map (cut '→') = some Record.beforeEpoch.cells ∧
      Record.beforeEpoch.cells.length = 10 ∧
      (Encoder.text '_').encode .beforeEpoch ⟨["voltage"]⟩ =
        .error (.reservedCharacter "line" "line_3" '_') := by
  have free : ∀ cell ∈ Record.beforeEpoch.cells, '→' ∉ cell := by decide +kernel
  obtain ⟨written, read, -⟩ := round_trip '→' .beforeEpoch ⟨["voltage"]⟩
  obtain ⟨bytes, encoded⟩ := written.mpr ⟨by decide, rfl, free⟩
  obtain ⟨cells, width, -⟩ := read bytes encoded
  obtain ⟨-, -, refused⟩ := round_trip '_' .beforeEpoch ⟨["voltage"]⟩
  refine ⟨bytes, encoded, cells, width, (refused _).mpr ?_⟩
  have heading : 7 < (Catalog.headings ⟨["voltage"]⟩).length := by decide
  have cell : 7 < Record.beforeEpoch.cells.length := by decide
  have value : String.ofList Record.beforeEpoch.cells[7] = "line_3" := by
    decide +kernel +revert
  have held : '_' ∈ Record.beforeEpoch.cells[7] := by
    decide +kernel +revert
  have before : ∀ j (less : j < 7), '_' ∉ Record.beforeEpoch.cells[j] := by
    decide +kernel +revert
  exact value ▸ Refuses.reserved (by decide) rfl heading cell held before

end Line

end LoadSeries

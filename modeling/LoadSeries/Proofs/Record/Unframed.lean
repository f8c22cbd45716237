import LoadSeries.Proofs.Record.Labels
import LoadSeries.Proofs.Record.Message
import LoadSeries.Proofs.Text.Lossy

/-!
Requests without a frame, which are read as text. Tags, lengths, time stamps and doubles may be no
text and are replaced then. In front of every name and of the series key stands a length, and the
last byte of a length has seven bits, so that the replacing comes to an end before the text.
-/
namespace LoadSeries
open Text

variable {metric : String} {record : Record} {catalog : Catalog} {payload : Bytes}

namespace Wire

theorem number_ends (n : Nat) : ∃ groups last, number n = groups ++ [last] ∧ last.toNat < 0x80 := by
  induction n using number.induct with
  | case1 n small =>
    have byte : n.toUInt8.toNat = n % 256 := UInt8.toNat_ofNat'
    refine ⟨[], n.toUInt8, ?_, by omega⟩
    rw [number, if_pos small, List.nil_append]
  | case2 n great ih =>
    obtain ⟨groups, last, ends, ascii⟩ := ih
    refine ⟨(n % 128 + 128).toUInt8 :: groups, last, ?_, ascii⟩
    rw [number, if_neg great, ends, List.cons_append]

theorem settled_number (n : Nat) : Settled (number n) := by
  obtain ⟨groups, last, ends, ascii⟩ := number_ends n
  rw [ends]
  exact .concat ascii groups

theorem settled_tag (index : Nat) (bytes : Bytes) :
    Settled (number (8 * index + 2) ++ number bytes.length) :=
  (settled_number _).append (settled_number _)

end Wire

namespace Point

theorem embeds_point {gap : Bytes} (settled : Settled gap) (record : Record) (key : List Char) :
    Embeds [utf8 key] (lossy (gap ++ Wire.message (pointFields record key))) := by
  have stamp : Settled (Wire.Field.bytes ⟨1, .number (Wire.word record.timestamp)⟩) :=
    (Wire.settled_number _).append (Wire.settled_number _)
  have front := (settled.append stamp).append (Wire.settled_tag 2 (utf8 key))
  have kept := front.embeds_lossy key (.nil (lossy (Wire.message [⟨3, .run (packed record)⟩])))
  simpa only [Wire.message, pointFields, List.flatMap_cons, Wire.Field.bytes, List.append_assoc]
    using kept

theorem embeds_request (record : Record) (names : List String) (key : List Char) :
    Embeds (names.map stringBytes ++ [utf8 key])
      (lossy (Wire.message (requestFields record ⟨names⟩ key))) := by
  induction names with
  | nil =>
    have tag := Wire.settled_tag 2 (Wire.message (pointFields record key))
    have kept := embeds_point tag record key
    simpa only [Wire.message, requestFields, List.map_nil, List.nil_append, List.flatMap_singleton,
      Wire.Field.bytes] using kept
  | cons name rest ih =>
    have kept := (Wire.settled_tag 1 (stringBytes name)).embeds_lossy name.toList ih
    simpa only [Wire.message, requestFields, List.map_cons, List.cons_append, List.flatMap_cons,
      Wire.Field.bytes, stringBytes] using kept

end Point

namespace Encoder

/-- What is written for a record without a frame is always text, and it is the request itself if and
only if that is text. The names of the fields and then the series key stand in it whole. -/
theorem unframed_keeps_texts
    (encoded : (Encoder.unframed metric).encode record catalog = .ok payload) :
    payload.toByteArray.IsValidUTF8 ∧
      ∃ message key, Point.request metric record catalog = .ok message ∧
        SeriesKey.encode metric record = .ok key ∧
        (payload = message ↔ message.toByteArray.IsValidUTF8) ∧
        Embeds (catalog.names.map stringBytes ++ [utf8 key]) payload := by
  obtain ⟨message, requested, rfl⟩ := map_eq_ok_iff.mp encoded
  obtain ⟨-, key, keyed, rfl⟩ := Point.request_eq_ok_iff.mp requested
  exact ⟨isValidUTF8_lossy _, _, key, requested, keyed, lossy_eq_self_iff,
    Point.embeds_request record catalog.names key⟩

theorem unframed_keeps_texts_earliest : ∃ payload key,
    (Encoder.unframed "electric").encode .earliest ⟨["voltage", "θ"]⟩ = .ok payload ∧
      payload.toByteArray.IsValidUTF8 ∧ SeriesKey.encode "electric" .earliest = .ok key ∧
      Embeds [stringBytes "voltage", stringBytes "θ", utf8 key] payload := by
  have vetted : (Encoder.unframed "electric").Vetted := trivial
  have admits : (Encoder.unframed "electric").Admits Record.earliest.tags := by decide +kernel
  have fields : Record.earliest.checkFields ⟨["voltage", "θ"]⟩ = .ok () := rfl
  obtain ⟨payload, encoded⟩ := encode_of_admits vetted fields admits
  obtain ⟨text, message, key, -, keyed, -, kept⟩ := unframed_keeps_texts encoded
  exact ⟨payload, key, encoded, text, keyed, kept⟩

end Encoder

end LoadSeries

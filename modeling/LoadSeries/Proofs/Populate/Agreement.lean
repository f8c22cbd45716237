import LoadSeries.Proofs.Populate.Lines
import LoadSeries.Proofs.Record.Reading

/-!
One data set in two encodings. The encoder has no part in the records, and of each record the line
and the framed request say the same, down to the bits of the doubles.
-/
namespace LoadSeries
open Text

namespace Recipe

variable {x : Recipe} {k : Nat} {record : Record}

theorem Determines.drawn (determined : x.Determines k record) :
    ∀ value ∈ record.values, Binary64.ofText? value.text = some value.double := by
  intro value member
  have listed : (Except.ok value : Except EncodingError MetricValue) ∈ record.values.map .ok :=
    List.mem_map_of_mem member
  rw [determined.values] at listed
  obtain ⟨i, -, drawn⟩ := List.mem_map.mp listed
  exact MetricValue.ofText?_text drawn

end Recipe

namespace Populator

variable {x : Populator}

/-- The way in which records are written shows in the encoder of a recipe and nowhere else. -/
theorem exists_encoder_of_mode {mode mode' : Mode} {one other : Recipe}
    (first : { x with mode }.recipe = .ok one)
    (second : { x with mode := mode' }.recipe = .ok other) :
    ∃ encoder, other = { one with encoder } := by
  obtain ⟨cadence, axis, first⟩ := bind_eq_ok_iff.mp first
  obtain ⟨catalog, named, first⟩ := bind_eq_ok_iff.mp first
  obtain ⟨encoder, -, first⟩ := bind_eq_ok_iff.mp first
  obtain ⟨cadence', axis', second⟩ := bind_eq_ok_iff.mp second
  obtain ⟨catalog', named', second⟩ := bind_eq_ok_iff.mp second
  obtain ⟨encoder', -, second⟩ := bind_eq_ok_iff.mp second
  obtain rfl : cadence' = cadence := Except.ok.inj (axis'.symm.trans axis)
  obtain rfl : catalog' = catalog := Except.ok.inj (named'.symm.trans named)
  obtain rfl := pure_eq_ok_iff.mp first
  obtain rfl := pure_eq_ok_iff.mp second
  exact ⟨encoder', rfl⟩

/-- A run that succeeds has read its source to the end. -/
theorem Populates.exhausts {τ : Type} {cancelled : Bool} {sink : Sink τ} {into rest : τ}
    {metrics : PopulateMetrics} (ran : x.Populates cancelled sink into (.ok metrics) rest) :
    ∃ recipe rows, x.recipe = .ok recipe ∧
      Generator.source.Exhausts (.ofRecipe recipe) rows := by
  obtain ⟨recipe, events, report, counts, settled, reports, succeeded, -, -⟩ := ran.of_ok
  exact ⟨recipe, _, settled, (reports.success succeeded).1⟩

theorem small_exhausts (mode : Mode) : ∃ recipe rows, { small with mode }.recipe = .ok recipe ∧
    Generator.source.Exhausts (.ofRecipe recipe) rows := by
  have succeeded : (({ small with mode } : Populator).populateInto false
      (Writer.unlimited none).sink .empty).any (·.1.isOk) = true := by
    cases mode <;> decide +kernel
  obtain ⟨⟨result, rest⟩, ran, isOk⟩ := Option.any_eq_true _ _ |>.mp succeeded
  obtain ⟨metrics, rfl⟩ := exists_of_isOk isOk
  exact (populateInto_populates ran).exhausts

/-- If all records of a data set can be written as lines, and also as framed requests, then there
are as many of one as of the other, and those of one place are read as the same data: the time, the
user, the tags, and under the name of every field the same double. -/
theorem encodings_agree {text framed : Recipe} {rows frames : List Bytes}
    (asText : { x with mode := .text }.recipe = .ok text)
    (asPoints : { x with mode := .framed }.recipe = .ok framed)
    (lines : Generator.source.Exhausts (.ofRecipe text) rows)
    (points : Generator.source.Exhausts (.ofRecipe framed) frames) :
    rows.length = x.schema.totalRecords ∧ frames.length = x.schema.totalRecords ∧
      ∀ k (inside : k < rows.length) (inside' : k < frames.length), ∃ message reading,
        frames[k] = Frame.encode message ∧
          Line.reading? x.separator x.schema.fields rows[k] = some reading ∧
          Point.reading? message = some reading ∧
          reading.values.map (·.1) = x.schema.fields := by
  obtain ⟨encoder, rfl⟩ := exists_encoder_of_mode asText asPoints
  have follows := follows_of_recipe asText
  have follows' := follows_of_recipe asPoints
  obtain ⟨length, encoded⟩ := Recipe.exhausts_ofRecipe follows.accepted lines
  obtain ⟨length', encoded'⟩ := Recipe.exhausts_ofRecipe follows'.accepted points
  refine ⟨length.trans follows.totalRecords_eq, length'.trans follows'.totalRecords_eq, ?_⟩
  intro k inside inside'
  obtain ⟨record, found, written⟩ := bind_eq_ok_iff.mp (encoded k inside)
  obtain ⟨record', found', written'⟩ := bind_eq_ok_iff.mp (encoded' k inside')
  -- The record of a place does not depend on the encoder.
  obtain rfl : record' = record := Except.ok.inj (found'.symm.trans found)
  have determined := (Recipe.recordAt_eq_ok_iff follows.accepted (length ▸ inside)).mp found
  rw [Recipe.encode, (follows.encoder_text rfl).1] at written
  obtain rfl : .framed x.metric = encoder := Except.ok.inj follows'.encoder
  obtain ⟨message, request, framing⟩ := map_eq_ok_iff.mp written'
  have line := Line.reading?_of_encode written determined.drawn
  have counted := (Encoder.text_eq_ok_iff.mp written).1.counted
  rw [follows.fields] at line
  refine ⟨message, record'.reading text.catalog, framing.symm, line,
    Point.reading?_of_request request, ?_⟩
  rw [Record.map_fst_reading counted, follows.fields]

theorem encodings_agree_small : ∃ (row message : Bytes) (reading : Reading) (value : Binary64),
    (∃ text, { small with mode := .text }.recipe = .ok text ∧ text.bytesAt 1 = .ok row) ∧
      (∃ framed, { small with mode := .framed }.recipe = .ok framed ∧
        framed.bytesAt 1 = .ok (Frame.encode message)) ∧
      Line.reading? ',' ["voltage"] row = some reading ∧ Point.reading? message = some reading ∧
      reading.values = [("voltage", value)] := by
  obtain ⟨text, rows, asText, lines⟩ := small_exhausts .text
  obtain ⟨framed, frames, asPoints, points⟩ := small_exhausts .framed
  obtain ⟨two, two', agree⟩ := encodings_agree asText asPoints lines points
  have inside : 1 < rows.length := by rw [two]; decide
  have inside' : 1 < frames.length := by rw [two']; decide
  obtain ⟨message, reading, framing, line, point, names⟩ := agree 1 inside inside'
  have written := (Recipe.exhausts_ofRecipe (follows_of_recipe asText).accepted lines).2 1 inside
  have written' :=
    (Recipe.exhausts_ofRecipe (follows_of_recipe asPoints).accepted points).2 1 inside'
  rw [framing] at written'
  obtain ⟨⟨name, value⟩, single, rfl⟩ := List.map_eq_singleton_iff.mp names
  exact ⟨rows[1], message, reading, value, ⟨text, asText, written⟩, ⟨framed, asPoints, written'⟩,
    line, point, single⟩

end Populator

end LoadSeries

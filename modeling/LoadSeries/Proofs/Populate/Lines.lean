import LoadSeries.Proofs.Populate.Verdict
import LoadSeries.Proofs.Record.Columns

/-!
The output of a run in text as lines. Behind each record stands a line end, so that the output can
be cut into one line for each record, and each line into the cells of its record, as long as no tag
holds a line end itself. Encoders keep separators out of tags but let line ends pass, and a tag with
a line end breaks its record into more lines than one.
-/
namespace LoadSeries
open Text

namespace Tags

/-- No tag holds a line end. -/
def Unbroken (x : Tags) : Prop := Unreserved (· == '\n') x.columns

instance (x : Tags) : Decidable x.Unbroken :=
  inferInstanceAs (Decidable (Unreserved (· == '\n') x.columns))

end Tags

namespace Record

variable {x : Record}

/-- Numbers hold no line end, so only tags can. -/
theorem cells_unbroken_iff : (∀ cell ∈ x.cells, '\n' ∉ cell) ↔ x.tags.Unbroken := by
  have number (n : Int) : '\n' ∉ intText n := by
    intro inside
    rcases isDigit_or_of_mem_intText inside with digit | minus
    · cases digit
    · cases minus
  have value (y : MetricValue) : '\n' ∉ y.text := by
    intro inside
    rcases Decimal.isDigit_or_of_mem_text inside with digit | point | minus
    · cases digit
    · cases point
    · cases minus
  simp [cells, Tags.Unbroken, Unreserved, Tags.columns, List.forall_mem_ne', number, value]

/-- The record as a line without its end. -/
def line (separator : Char) (x : Record) : Bytes := utf8 (Line.join separator x.cells)

theorem unbroken_iff_line {separator : Char} (other : separator ≠ '\n') :
    x.tags.Unbroken ↔ 10 ∉ x.line separator := by
  have inside : 10 ∈ x.line separator ↔ ∃ cell ∈ x.cells, '\n' ∈ cell := by
    rw [line, mem_utf8_iff (by decide)]
    exact Line.mem_join_iff other.symm
  rw [inside, ← cells_unbroken_iff]
  push Not
  rfl

/-- Records behind each of which stands a line end can be read back line by line if and only if no
tag of any of them holds a line end. -/
theorem all_unbroken_iff_lines {separator : Char} {records : List Record}
    (other : separator ≠ '\n')
    (free : ∀ record ∈ records, ∀ cell ∈ record.cells, separator ∉ cell) :
    (∀ record ∈ records, record.tags.Unbroken) ↔ ∃ lines : List (List Char),
      (((records.map (line separator)).map (· ++ [10])).flatten).splitOn 10 =
          lines.map utf8 ++ [[]] ∧
        lines.map (Line.cut separator) = records.map cells := by
  constructor
  · intro unbroken
    refine ⟨records.map fun record => Line.join separator record.cells, ?_, ?_⟩
    · have rows : ∀ row ∈ records.map (line separator), 10 ∉ row := by
        intro row member
        obtain ⟨record, inside, rfl⟩ := List.mem_map.mp member
        exact (unbroken_iff_line other).mp (unbroken record inside)
      rw [splitOn_terminated_of_free rows, List.map_map]
      rfl
    · rw [List.map_map]
      apply List.map_congr_left
      intro record member
      exact Line.cut_join record.cells_ne_nil (free record member)
  · rintro ⟨lines, split, cut⟩ record member
    have count : lines.length = records.length := by
      rw [← List.length_map, cut, List.length_map]
    -- There are no more pieces than records, so none of the records was cut into several.
    have few : ((records.map (line separator)).flatMap (·.splitOn 10)).length ≤
        (records.map (line separator)).length := by
      rw [splitOn_terminated] at split
      rw [List.append_cancel_right split, List.length_map, List.length_map, count]
    apply (unbroken_iff_line other).mpr
    exact free_of_length_flatMap_splitOn few _ (List.mem_map_of_mem member)

end Record

namespace Populator

variable {x : Populator} {cancelled : Bool} {metrics : PopulateMetrics} {stored : Storage}
  {recipe : Recipe}

theorem Follows.encoder_text (follows : x.Follows recipe) (mode : x.mode = .text) :
    recipe.encoder = .text x.separator ∧ x.separator ≠ '\n' := by
  have chosen := follows.encoder
  rw [mode] at chosen
  obtain ⟨⟨⟩, passed, encoder⟩ := map_eq_ok_iff.mp chosen
  refine ⟨encoder.symm, ?_⟩
  intro same
  have plain := Line.isReserved_of_checkSeparator passed
  rw [same] at plain
  cases plain

/-- In text a run that succeeds has written the lines of the records of all places. -/
theorem Populates.wrote_lines (mode : x.mode = .text)
    (ran : x.Populates cancelled x.writer.sink .empty (.ok metrics) stored) :
    ∃ (recipe : Recipe) (records : List Record), x.Follows recipe ∧
      records.length = x.schema.totalRecords ∧
      (∀ k (inside : k < records.length), recipe.Determines k records[k]) ∧
      (∀ record ∈ records, Line.Writable x.separator record recipe.catalog) ∧
      stored.bytes = ((records.map (·.line x.separator)).map (· ++ [10])).flatten := by
  obtain ⟨recipe, rows, settled, length, encoded, wrote⟩ := ran.wrote
  have follows := follows_of_recipe settled
  have accepted := follows.accepted
  obtain ⟨encoder, -⟩ := follows.encoder_text mode
  have written (k : Fin rows.length) : ∃ record, recipe.Determines k record ∧
      Line.Writable x.separator record recipe.catalog ∧ rows[k] = record.line x.separator := by
    obtain ⟨record, found, row⟩ := bind_eq_ok_iff.mp (encoded k k.isLt)
    rw [Recipe.encode, encoder] at row
    obtain ⟨writable, row⟩ := Encoder.text_eq_ok_iff.mp row
    exact ⟨record, (Recipe.recordAt_eq_ok_iff accepted (length ▸ k.isLt)).mp found, writable, row⟩
  choose records determined writable rows_eq using written
  refine ⟨recipe, List.ofFn records, follows, ?_, ?_, ?_, ?_⟩
  · rw [List.length_ofFn, length]
    exact follows.totalRecords_eq
  · intro k inside
    rw [List.getElem_ofFn]
    exact determined ⟨k, by simpa using inside⟩
  · intro record member
    obtain ⟨k, rfl⟩ := List.mem_ofFn.mp member
    exact writable k
  · have ending : x.writer.ending = [10] := by
      unfold writer
      rw [mode]
      rfl
    have rows_map : rows = (List.ofFn records).map (·.line x.separator) := by
      apply List.ext_getElem
      · simp
      · intro k inside _
        simpa using rows_eq ⟨k, inside⟩
    rw [wrote.bytes, ending, ← rows_map]

theorem Follows.unbroken_iff {records : List Record} (follows : x.Follows recipe)
    (length : records.length = x.schema.totalRecords)
    (determined : ∀ k (inside : k < records.length), recipe.Determines k records[k]) :
    (∀ user, x.schema.users.Contains user → (x.tagsOf user).Unbroken) ↔
      ∀ record ∈ records, record.tags.Unbroken := by
  have accepted := follows.accepted
  have users := follows.users_eq
  rw [← follows.totalRecords_eq] at length
  have tags (k : Nat) (inside : k < records.length) :
      records[k].tags = x.tagsOf (recipe.userAt k) := by
    rw [(determined k inside).tags_eq accepted (length ▸ inside), follows.tagsAt_eq]
  constructor
  · intro unbroken record member
    obtain ⟨k, inside, rfl⟩ := List.mem_iff_getElem.mp member
    rw [tags]
    apply unbroken
    exact users ▸ Recipe.users_contains_userAt accepted (length ▸ inside)
  · intro unbroken user present
    obtain ⟨k, inside, rfl⟩ := Recipe.exists_userAt accepted (users ▸ present)
    rw [← length] at inside
    rw [← tags k inside]
    exact unbroken _ (List.getElem_mem inside)

/-- In text the output of a run that succeeds has one line for each record of the data set, which
the separator cuts into the cells of that record, if and only if no tag of any user holds a line
end. -/
theorem one_line_per_record_iff (mode : x.mode = .text)
    (ran : x.Populates cancelled x.writer.sink .empty (.ok metrics) stored) :
    ∃ (recipe : Recipe) (records : List Record), x.Follows recipe ∧
      records.length = x.schema.totalRecords ∧
      (∀ k (inside : k < records.length), recipe.Determines k records[k]) ∧
      (∀ record ∈ records, record.cells.length = 9 + x.schema.fields.length) ∧
      ((∀ user, x.schema.users.Contains user → (x.tagsOf user).Unbroken) ↔
        ∃ lines : List (List Char), stored.bytes.splitOn 10 = lines.map utf8 ++ [[]] ∧
          lines.map (Line.cut x.separator) = records.map Record.cells) := by
  obtain ⟨recipe, records, follows, length, determined, writable, bytes⟩ := ran.wrote_lines mode
  obtain ⟨-, other⟩ := follows.encoder_text mode
  refine ⟨recipe, records, follows, length, determined, ?_, ?_⟩
  · intro record member
    rw [Record.length_cells, (writable record member).counted, follows.fields]
  · rw [follows.unbroken_iff length determined, bytes]
    exact Record.all_unbroken_iff_lines other fun record member => (writable record member).free

theorem one_line_per_record_iff_small : ∃ metrics stored,
    small.mode = .text ∧ small.Populates false small.writer.sink .empty (.ok metrics) stored ∧
      ∃ lines : List (List Char), lines.length = 2 ∧
        stored.bytes.splitOn 10 = lines.map utf8 ++ [[]] ∧
        ∀ line ∈ lines, (Line.cut ',' line).length = 10 := by
  obtain ⟨metrics, stored, ran⟩ := small_succeeds
  obtain ⟨recipe, records, -, length, -, width, unbroken⟩ := one_line_per_record_iff rfl ran
  obtain ⟨lines, split, cut⟩ := unbroken.mp fun user present => by
    rcases user_of_small present with rfl | rfl <;> decide +kernel
  refine ⟨metrics, stored, rfl, ran, lines, ?_, split, ?_⟩
  · rw [← List.length_map, cut, List.length_map]
    exact length
  · intro line member
    have cells := List.mem_map_of_mem (f := Line.cut ',') member
    obtain ⟨record, inside, same⟩ := List.mem_map.mp (cut ▸ cells)
    rw [← same]
    exact width record inside

/-- The small data set with a district that holds a line end. -/
def folded : Populator :=
  { small with schema :=
    { small.schema with tables := { Tables.standard with districts := ["zhu\nhai"] } } }

/-- A tag with a line end passes all checks, and the two records are written as four lines. -/
theorem breaks_records : ∃ metrics stored,
    folded.Valid ∧ folded.mode = .text ∧
      folded.Populates false folded.writer.sink .empty (.ok metrics) stored ∧
      folded.schema.totalRecords = 2 ∧ (stored.bytes.splitOn 10).length = 4 + 1 := by
  have broken : (folded.populateInto false folded.writer.sink .empty).any (fun outcome =>
      outcome.1.isOk && (outcome.2.bytes.splitOn 10).length == 4 + 1) = true := by
    decide +kernel
  obtain ⟨⟨result, stored⟩, ran, held⟩ := Option.any_eq_true _ _ |>.mp broken
  obtain ⟨isOk, pieces⟩ := Bool.and_eq_true_iff.mp held
  obtain ⟨metrics, rfl⟩ := exists_of_isOk isOk
  exact ⟨metrics, stored, ⟨by decide +kernel, by decide⟩, rfl, populateInto_populates ran, rfl,
    beq_iff_eq.mp pieces⟩

end Populator

end LoadSeries

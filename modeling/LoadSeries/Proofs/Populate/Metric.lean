import LoadSeries.Proofs.Populate.Files

/-!
A metric with a delimiter. No point can be written under it, but nothing looks at it before the
first point: the run fails, and the file to which it went has been emptied.
-/
namespace LoadSeries
open Text

namespace Populator

variable {paths : Paths} {x : Populator} {recipe : Recipe} {cancelled : Bool}
  {directory left : Directory paths} {key : String}
  {result : Option (Except PopulateError PopulateMetrics)} {taken : List Bytes}
  {character : Char} {k : Nat}

/-- The records are points, and their metric holds a delimiter, of which this is the first. -/
structure Misnamed (x : Populator) (character : Char) : Prop where
  points : x.mode ≠ .text
  found : x.metric.toList.find? SeriesKey.isDelimiter = some character

theorem exists_misnamed (points : x.mode ≠ .text)
    (reserved : ',' ∈ x.metric.toList ∨ '=' ∈ x.metric.toList) :
    ∃ character, x.Misnamed character := by
  cases found : x.metric.toList.find? SeriesKey.isDelimiter with
  | some character => exact ⟨character, points, found⟩
  | none =>
    have free := List.find?_eq_none.mp found
    rcases reserved with member | member
    · exact absurd rfl (free _ member)
    · exact absurd rfl (free _ member)

namespace Misnamed

variable (misnamed : x.Misnamed character)
include misnamed

theorem valid (schema : x.schema.validate = .ok ()) : x.Valid :=
  ⟨schema, fun text => absurd text misnamed.points⟩

/-- The metric is the first label of a point, so that it is what a refusal names. -/
theorem rejects (tags : Tags) : x.encoder.Rejects tags "metric" x.metric character := by
  obtain ⟨reserved, front, back, same, free⟩ := List.find?_eq_some_iff_append.mp misnamed.found
  have first : FirstReserved SeriesKey.isDelimiter (("metric", x.metric) :: tags.keyed) "metric"
      x.metric character :=
    ⟨⟨[], tags.keyed, rfl, by simp [Unreserved]⟩,
      ⟨front, back, same, fun c member => by simpa using free c member⟩, reserved⟩
  unfold encoder
  cases mode : x.mode with
  | text => exact absurd mode misnamed.points
  | framed => exact first
  | unframed => exact first

theorem bytesAt_ne_ok (schema : x.schema.validate = .ok ()) (follows : x.Follows recipe)
    (inside : k < recipe.cadence.totalRecords) (bytes : Bytes) : recipe.bytesAt k ≠ .ok bytes := by
  intro written
  have valid := misnamed.valid schema
  obtain ⟨record, found, encoded⟩ := bind_eq_ok_iff.mp written
  have determined := (Recipe.recordAt_eq_ok_iff follows.accepted inside).mp found
  have refused := Encoder.encode_of_rejects valid.vetted
    (determined.checkFields (valid.named follows)) (misnamed.rejects record.tags)
  rw [Recipe.encode, valid.encoder_eq follows, refused] at encoded
  cases encoded

theorem gives_nil {rows : List Bytes} {rest : Generator} (schema : x.schema.validate = .ok ())
    (follows : x.Follows recipe) (gives : Generator.source.Gives (.ofRecipe recipe) rows rest) :
    rows = [] := by
  rw [← Recipe.generatorAt_zero] at gives
  obtain ⟨bound, -, written⟩ := Recipe.gives_generatorAt follows.accepted (Nat.zero_le _) gives
  cases rows with
  | nil => rfl
  | cons row rows =>
    have first : 0 < (row :: rows).length := Nat.zero_lt_succ _
    exact absurd (written 0 first) (misnamed.bytesAt_ne_ok schema follows (by omega) _)

theorem not_exhausts {rows : List Bytes} (schema : x.schema.validate = .ok ())
    (follows : x.Follows recipe) : ¬ Generator.source.Exhausts (.ofRecipe recipe) rows := by
  intro exhausts
  obtain ⟨length, written⟩ := Recipe.exhausts_ofRecipe follows.accepted exhausts
  have some : 0 < rows.length := length ▸ follows.accepted.totalRecords_pos
  exact misnamed.bytesAt_ne_ok schema follows (length ▸ some) _ (written 0 some)

theorem saves (schema : x.schema.validate = .ok ())
    (saved : x.Saves cancelled directory key result taken left) :
    (∀ metrics, result ≠ some (.ok metrics)) ∧ taken = [] ∧ left = directory.put key [] := by
  obtain ⟨recipe, settled⟩ := (misnamed.valid schema).exists_recipe
  have follows := follows_of_recipe settled
  have same := saved.put settled
  cases saved with
  | refused found => simp [settled] at found
  | @streamed found events report again reports =>
    obtain rfl := Except.ok.inj (again.symm.trans settled)
    have none : acceptedRecords events = [] := by
      cases reports with
      | refused started => exact absurd rfl started
      | returned _ _ run _ =>
        obtain ⟨rest, gives⟩ := Setup.accepted_gives run
        exact misnamed.gives_nil schema follows gives
    rw [none] at same
    refine ⟨?_, none, same⟩
    rintro metrics succeeded
    obtain ⟨counts, counted, -⟩ := map_eq_ok_iff.mp (Option.some.inj succeeded)
    have exhausts := (reports.success (mapError_eq_ok_iff.mp counted)).1
    exact misnamed.not_exhausts schema follows exhausts
  | broken => exact ⟨by simp, rfl, same⟩

end Misnamed

/-- A metric under which no point can be written is not looked at before the file is emptied: each
run fails with no record written, and of what the file held before nothing is left. Where there is
a queue the failure is reported, and if nothing else is in the way, it names the metric. -/
theorem emptied_by_metric (schema : x.schema.validate = .ok ()) (points : x.mode ≠ .text)
    (reserved : ',' ∈ x.metric.toList ∨ '=' ∈ x.metric.toList) (directory : Directory paths)
    (key : String) :
    (∀ cancelled result taken left, x.Saves cancelled directory key result taken left →
        (∀ metrics, result ≠ some (.ok metrics)) ∧ taken = [] ∧ directory.Replaces left key []) ∧
      (x.config.hasQueue = true → ∀ cancelled, ∃ error,
        (x.populateFile cancelled directory key).1 = some (.error error)) ∧
      (x.config.hasQueue = true → x.config.hasRoom = true →
        (∀ recipe, x.recipe = .ok recipe → recipe.Drawable) →
          ∃ character ∈ x.metric.toList.find? SeriesKey.isDelimiter,
            (x.populateFile false directory key).1 = some (.error (.pipeline (.encoding
              (.reservedCharacter "metric" x.metric character))))) := by
  obtain ⟨character, misnamed⟩ := exists_misnamed points reserved
  have valid := misnamed.valid schema
  obtain ⟨recipe, settled⟩ := valid.exists_recipe
  have follows := follows_of_recipe settled
  refine ⟨fun cancelled result taken left saved => ?_, fun queue cancelled => ?_,
    fun queue room drawable => ⟨character, misnamed.found, ?_⟩⟩
  · obtain ⟨failed, none, rfl⟩ := misnamed.saves schema saved
    exact ⟨failed, none, Directory.put_replaces⟩
  · obtain ⟨report, ran⟩ := follows.exists_run queue cancelled x.writer.sink .empty
    obtain ⟨taken, saved⟩ := x.populateFile_saves cancelled directory key
    rw [populateFile_of_run settled ran] at saved ⊢
    obtain ⟨error, same⟩ := exists_error_of_ne_ok fun metrics same =>
      (misnamed.saves schema saved).1 metrics (congrArg some same)
    exact ⟨error, congrArg some same⟩
  · obtain ⟨report, ran⟩ := follows.exists_run queue false x.writer.sink .empty
    obtain ⟨events, reports⟩ := Pipeline.run_reports ran
    have completes : x.Completes x.writer.sink .empty _ :=
      .streamed settled reports (Pipeline.run_uncancelled (fun _ => rfl) ran)
    obtain ⟨sound, encoder⟩ := valid.sound follows (drawable recipe settled)
    obtain ⟨rows, refuses⟩ := Recipe.refuses_of_rejects sound follows.accepted.totalRecords_pos
      (fun i none => absurd none (Nat.not_lt_zero i)) (encoder ▸ misnamed.rejects _)
    rw [populateFile_of_run settled ran, completes.result_of_refuses settled room
      Writer.accepts_of_unlimited refuses]

/-- The small data set as points under such a metric. -/
def misnamed : Populator := { small with mode := .framed, metric := "volt,age" }

/-- A working directory with an older output. -/
def olderOutput : Directory := ⟨[("out", stringBytes "old")]⟩

theorem emptied_by_metric_misnamed : ∃ error,
    (misnamed.populateFile false olderOutput "out").1 = some (.error error) ∧
      (misnamed.populateFile false olderOutput "out").2.files.lookup "out" = some [] := by
  have schema : misnamed.schema.validate = .ok () := by decide +kernel
  obtain ⟨emptied, reported, -⟩ :=
    emptied_by_metric schema (by decide) (.inl (by decide)) olderOutput "out"
  obtain ⟨error, failed⟩ := reported rfl false
  obtain ⟨taken, saved⟩ := misnamed.populateFile_saves false olderOutput "out"
  exact ⟨error, failed, (emptied _ _ _ _ saved).2.2.content⟩

/-- All of its settings but the metric are in order, and the older output is gone. -/
theorem destroys_older_output :
    misnamed.Valid ∧ misnamed.mode = .framed ∧ ',' ∈ misnamed.metric.toList ∧
      misnamed.populateFile false olderOutput "out" =
        (some (.error (.pipeline (.encoding (.reservedCharacter "metric" "volt,age" ',')))),
          ⟨[("out", [])]⟩) :=
  ⟨⟨by decide +kernel, by decide⟩, rfl, by decide, by decide +kernel⟩

end Populator

end LoadSeries

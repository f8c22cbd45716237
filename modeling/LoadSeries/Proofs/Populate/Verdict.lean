import LoadSeries.Proofs.Pipeline.Abort
import LoadSeries.Proofs.Pipeline.Cancellation
import LoadSeries.Proofs.Populate.Output
import LoadSeries.Proofs.Record.Labels

/-!
What decides a run of a populator. Once the data set and the separator have been checked, it is the
tags of the users, and for points the metric: a run that nothing else stands in the way of succeeds
if no label holds a reserved character, and else fails, by whatever schedule, at the first user with
a label that does.
-/
namespace LoadSeries
open Text

def UserRange.Contains (x : UserRange) (user : Int32) : Prop := x.first ≤ user ∧ user ≤ x.last

namespace Recipe

/-- All records of a sound recipe can be made, and each can be encoded if its labels allow it. -/
structure Sound (x : Recipe) : Prop where
  accepted : x.cadence.Accepted
  named : x.catalog.isEmpty = false
  vetted : x.encoder.Vetted
  drawable : x.Drawable

variable {x : Recipe} {k : Nat} {name value : String} {character : Char}

def userAt (x : Recipe) (k : Nat) : Int32 :=
  Int32.ofInt (x.cadence.firstUser.toInt + (k / x.cadence.samplesPerUser.toNat : Nat))

def tagsAt (x : Recipe) (k : Nat) : Tags := x.tables.resolve (x.userAt k) x.userType

theorem Determines.checkFields {record : Record} (determined : x.Determines k record)
    (named : x.catalog.isEmpty = false) : record.checkFields x.catalog = .ok () := by
  have length := congrArg List.length determined.values
  rw [List.length_map, List.length_map, List.length_range] at length
  simp [Record.checkFields, named, length]

theorem Determines.tags_eq {record : Record} (determined : x.Determines k record)
    (accepted : x.cadence.Accepted) (inside : k < x.cadence.totalRecords) :
    record.tags = x.tagsAt k := by
  have user : record.user = x.userAt k :=
    Int32.toInt_inj.mp (determined.user.trans (accepted.user_toInt inside).symm)
  rw [determined.tags, user]
  rfl

theorem Sound.exists_record (sound : x.Sound) (inside : k < x.cadence.totalRecords) :
    ∃ record, x.recordAt k = .ok record ∧ record.checkFields x.catalog = .ok () ∧
      record.tags = x.tagsAt k := by
  obtain ⟨record, found⟩ := exists_recordAt sound.drawable inside
  have determined := (recordAt_eq_ok_iff sound.accepted inside).mp found
  exact ⟨record, found, determined.checkFields sound.named,
    determined.tags_eq sound.accepted inside⟩

theorem bytesAt_of_admits (sound : x.Sound) (inside : k < x.cadence.totalRecords)
    (admits : x.encoder.Admits (x.tagsAt k)) : ∃ bytes, x.bytesAt k = .ok bytes := by
  obtain ⟨record, found, fields, tags⟩ := sound.exists_record inside
  obtain ⟨bytes, encoded⟩ := Encoder.encode_of_admits sound.vetted fields (tags ▸ admits)
  exact ⟨bytes, bind_eq_ok_iff.mpr ⟨record, found, encoded⟩⟩

theorem bytesAt_of_rejects (sound : x.Sound) (inside : k < x.cadence.totalRecords)
    (rejects : x.encoder.Rejects (x.tagsAt k) name value character) :
    x.bytesAt k = .error (.reservedCharacter name value character) := by
  obtain ⟨record, found, fields, tags⟩ := sound.exists_record inside
  rw [bytesAt, found]
  exact Encoder.encode_of_rejects sound.vetted fields (tags ▸ rejects)

/-- As a source the generator brings a record for each place in front of which all are admitted. -/
theorem gives_of_admits (sound : x.Sound) (inside : k ≤ x.cadence.totalRecords)
    (admits : ∀ i < k, x.encoder.Admits (x.tagsAt i)) :
    ∃ rows, Generator.source.Gives (.ofRecipe x) rows (x.generatorAt k) := by
  induction k with
  | zero => exact ⟨[], generatorAt_zero x ▸ .nil _⟩
  | succ k ih =>
    obtain ⟨rows, gives⟩ := ih (by omega) fun i less => admits i (by omega)
    obtain ⟨bytes, encoded⟩ := bytesAt_of_admits sound inside (admits k (by omega))
    have step := source_generatorAt sound.accepted inside
    rw [encoded] at step
    exact ⟨rows ++ [bytes], gives.snoc step⟩

theorem exhausts_of_admits (sound : x.Sound)
    (admits : ∀ k < x.cadence.totalRecords, x.encoder.Admits (x.tagsAt k)) :
    ∃ rows, Generator.source.Exhausts (.ofRecipe x) rows := by
  obtain ⟨rows, gives⟩ := gives_of_admits sound (Nat.le_refl _) admits
  exact ⟨rows, x.generatorAt x.cadence.totalRecords, gives, source_end sound.accepted⟩

theorem refuses_of_rejects (sound : x.Sound) (inside : k < x.cadence.totalRecords)
    (admits : ∀ i < k, x.encoder.Admits (x.tagsAt i))
    (rejects : x.encoder.Rejects (x.tagsAt k) name value character) :
    ∃ rows, Generator.source.Refuses (.ofRecipe x) rows
      (.reservedCharacter name value character) := by
  obtain ⟨rows, gives⟩ := gives_of_admits sound (Nat.le_of_lt inside) admits
  have step := source_generatorAt sound.accepted inside
  rw [bytesAt_of_rejects sound inside rejects] at step
  obtain ⟨later, refused⟩ := step
  exact ⟨rows, x.generatorAt k, later, gives, refused⟩

/-- Either all of the first places are admitted, or there is a first one that is not. -/
theorem admits_or_first_rejects (x : Recipe) (n : Nat) :
    (∀ k < n, x.encoder.Admits (x.tagsAt k)) ∨
      ∃ k < n, (∀ i < k, x.encoder.Admits (x.tagsAt i)) ∧
        ∃ name value character, x.encoder.Rejects (x.tagsAt k) name value character := by
  induction n with
  | zero => exact .inl fun k none => absurd none (Nat.not_lt_zero k)
  | succ n ih =>
    rcases ih with admits | ⟨k, less, first⟩
    · rcases x.encoder.admits_or_rejects (x.tagsAt n) with here | rejects
      · refine .inl fun k less => ?_
        rcases Nat.lt_succ_iff_lt_or_eq.mp less with earlier | rfl
        · exact admits k earlier
        · exact here
      · exact .inr ⟨n, Nat.lt_succ_self n, admits, rejects⟩
    · exact .inr ⟨k, Nat.lt_succ_of_lt less, first⟩

def users (x : Recipe) : UserRange := ⟨x.cadence.firstUser, x.cadence.lastUser⟩

theorem users_contains_userAt (accepted : x.cadence.Accepted)
    (inside : k < x.cadence.totalRecords) : x.users.Contains (x.userAt k) := by
  have place : (x.userAt k).toInt = _ := accepted.user_toInt inside
  have few := accepted.user_lt inside
  have count := accepted.userCount_eq
  generalize k / x.cadence.samplesPerUser.toNat = offset at place few
  constructor <;> rw [Int32.le_iff_toInt_le, place] <;> simp only [users] <;> omega

theorem exists_userAt (accepted : x.cadence.Accepted) {user : Int32}
    (present : x.users.Contains user) : ∃ k < x.cadence.totalRecords, x.userAt k = user := by
  obtain ⟨low, high⟩ := present
  rw [Int32.le_iff_toInt_le] at low high
  have count := accepted.userCount_eq
  have samples := accepted.samples
  obtain ⟨offset, same⟩ : ∃ offset : Nat,
      user.toInt = x.cadence.firstUser.toInt + offset := by
    refine ⟨(user.toInt - x.cadence.firstUser.toInt).toNat, ?_⟩
    simp only [users] at low
    omega
  have few : offset < userCount x.cadence.firstUser x.cadence.lastUser := by
    simp only [users] at high
    omega
  have inside : offset * x.cadence.samplesPerUser.toNat < x.cadence.totalRecords :=
    Nat.mul_lt_mul_of_pos_right few samples
  refine ⟨_, inside, Int32.toInt_inj.mp ?_⟩
  rw [userAt, accepted.user_toInt inside, Nat.mul_div_cancel _ samples, same]

/-- An earlier user has earlier places. -/
theorem lt_of_userAt_lt (accepted : x.cadence.Accepted) {i : Nat}
    (before : i < x.cadence.totalRecords) (inside : k < x.cadence.totalRecords)
    (less : x.userAt i < x.userAt k) : i < k := by
  by_contra later
  have order : k / x.cadence.samplesPerUser.toNat ≤ i / x.cadence.samplesPerUser.toNat :=
    Nat.div_le_div_right (by omega)
  rw [Int32.lt_iff_toInt_lt, userAt, userAt, accepted.user_toInt before,
    accepted.user_toInt inside] at less
  omega

end Recipe

theorem Catalog.isEmpty_of_ofNames {names : List String} {catalog : Catalog}
    (found : ofNames names = .ok catalog) : names.isEmpty = false := by
  unfold ofNames at found
  split at found
  · cases found
  · rename_i some
    simpa using some

theorem Line.isReserved_of_checkSeparator {separator : Char}
    (passed : checkSeparator separator = .ok ()) : isReserved separator = false := by
  unfold checkSeparator at passed
  split at passed
  · cases passed
  · rename_i free
    simpa using free

theorem Schema.axes_of_validate {x : Schema} (valid : x.validate = .ok ()) :
    (∃ cadence, x.cadence = .ok cadence) ∧ ∃ catalog, x.catalog = .ok catalog := by
  unfold validate at valid
  split at valid
  · cases valid
  · obtain ⟨cadence, axis, valid⟩ := bind_eq_ok_iff.mp valid
    obtain ⟨catalog, named, -⟩ := bind_eq_ok_iff.mp valid
    exact ⟨⟨cadence, axis⟩, catalog, named⟩

namespace Populator

variable {τ : Type} {x : Populator} {recipe : Recipe} {sink : Sink τ} {into : τ}
  {result : Except PopulateError PopulateMetrics} {name value : String} {character : Char}

/-- The encoder of a populator whose separator is accepted. -/
def encoder (x : Populator) : Encoder :=
  match x.mode with
  | .text => .text x.separator
  | .framed => .framed x.metric
  | .unframed => .unframed x.metric

def tagsOf (x : Populator) (user : Int32) : Tags := x.schema.tables.resolve user x.userType

/-- The settings of a populator are such that it gets as far as its pipeline. -/
structure Valid (x : Populator) : Prop where
  schema : x.schema.validate = .ok ()
  separator : x.mode = .text → Line.checkSeparator x.separator = .ok ()

theorem Valid.ofMode_eq (valid : x.Valid) :
    Encoder.ofMode x.mode x.metric x.separator = .ok x.encoder := by
  unfold Encoder.ofMode encoder
  cases mode : x.mode with
  | text => exact map_eq_ok_iff.mpr ⟨(), valid.separator mode, rfl⟩
  | framed => rfl
  | unframed => rfl

theorem Valid.vetted (valid : x.Valid) : x.encoder.Vetted := by
  unfold encoder
  cases mode : x.mode with
  | text => exact Line.isReserved_of_checkSeparator (valid.separator mode)
  | framed => trivial
  | unframed => trivial

theorem Valid.exists_recipe (valid : x.Valid) : ∃ recipe, x.recipe = .ok recipe := by
  obtain ⟨⟨cadence, axis⟩, catalog, named⟩ := Schema.axes_of_validate valid.schema
  refine ⟨⟨cadence, x.schema.tables, catalog, x.encoder, x.userType, .ofSeed x.seed.toUInt64⟩, ?_⟩
  simp only [recipe, axis, named, valid.ofMode_eq]
  rfl

theorem Valid.encoder_eq (valid : x.Valid) (follows : x.Follows recipe) :
    recipe.encoder = x.encoder :=
  Except.ok.inj (follows.encoder.symm.trans valid.ofMode_eq)

theorem Valid.named (valid : x.Valid) (follows : x.Follows recipe) :
    recipe.catalog.isEmpty = false := by
  obtain ⟨-, catalog, named⟩ := Schema.axes_of_validate valid.schema
  rw [Catalog.isEmpty, follows.fields]
  exact Catalog.isEmpty_of_ofNames named

theorem Valid.sound (valid : x.Valid) (follows : x.Follows recipe) (drawable : recipe.Drawable) :
    recipe.Sound ∧ recipe.encoder = x.encoder := by
  have encoder := valid.encoder_eq follows
  exact ⟨⟨follows.accepted, valid.named follows, encoder ▸ valid.vetted, drawable⟩, encoder⟩

theorem Follows.users_eq (follows : x.Follows recipe) : recipe.users = x.schema.users := by
  rw [Recipe.users, follows.firstUser, follows.lastUser]

theorem Follows.tagsAt_eq (follows : x.Follows recipe) (k : Nat) :
    recipe.tagsAt k = x.tagsOf (recipe.userAt k) := by
  rw [Recipe.tagsAt, follows.tables, follows.userType]
  rfl

/-- A run of a populator that is not cancelled, by any schedule, with its result. -/
inductive Completes (x : Populator) (sink : Sink τ) (into : τ) :
    Except PopulateError PopulateMetrics → Prop
  | refused {error : PopulateError} (settled : x.recipe = .error error) :
      Completes x sink into (.error error)
  | streamed {recipe : Recipe} {events : List Event} {report : Report τ}
      (settled : x.recipe = .ok recipe)
      (reports : Pipeline.Reports ⟨x.config, .idle, false⟩ Generator.source (.ofRecipe recipe)
        sink into events report)
      (uncancelled : report.pipeline.cancelled = false) :
      Completes x sink into (report.result.mapError .pipeline |>.map
        (.ofProgress · recipe.catalog.size))

theorem Completes.populates (ran : x.Completes sink into result) :
    ∃ rest, x.Populates false sink into result rest := by
  cases ran with
  | refused settled => exact ⟨into, .refused settled⟩
  | streamed settled reports => exact ⟨_, .streamed settled reports⟩

theorem populateInto_completes {rest : τ} (quiet : ∀ state, sink.cancels state = false)
    (ran : x.populateInto false sink into = some (result, rest)) :
    x.Completes sink into result := by
  rcases populateInto_eq_some ran with
    ⟨error, settled, rfl, -⟩ | ⟨recipe, report, settled, reported, rfl, -⟩
  · exact .refused settled
  · obtain ⟨events, reports⟩ := Pipeline.run_reports reported
    exact .streamed settled reports (Pipeline.run_uncancelled quiet reported)

/-- Once the recipe is settled, the result is that of a run of the pipeline. -/
theorem Completes.returned (settled : x.recipe = .ok recipe) (ran : x.Completes sink into result) :
    ∃ events s outcome,
      Setup.Run ⟨x.config, Generator.source, sink⟩
        (.start x.config (.ofRecipe recipe) into false) events s ∧
      s.result? = some outcome ∧ s.cancelled = false ∧
      result = (outcome.mapError .pipeline).map (.ofProgress · recipe.catalog.size) := by
  cases ran with
  | refused refused => simp [settled] at refused
  | streamed found reports uncancelled =>
    obtain rfl := Except.ok.inj (found.symm.trans settled)
    cases reports with
    | refused started => exact (started rfl).elim
    | returned _ _ run returned => exact ⟨_, _, _, run, returned, uncancelled, rfl⟩

theorem Completes.result_of_exhausts {rows : List Bytes} (settled : x.recipe = .ok recipe)
    (room : x.config.hasRoom = true) (accepts : sink.Accepts into)
    (exhausts : Generator.source.Exhausts (.ofRecipe recipe) rows)
    (ran : x.Completes sink into result) : ∃ metrics, result = .ok metrics := by
  obtain ⟨events, s, outcome, run, returned, uncancelled, rfl⟩ := ran.returned settled
  obtain ⟨counts, rfl⟩ := Setup.result_of_exhausts (x := ⟨x.config, Generator.source, sink⟩)
    room exhausts accepts run returned uncancelled
  exact ⟨.ofProgress counts recipe.catalog.size, rfl⟩

theorem Completes.result_of_refuses {rows : List Bytes} {error : EncodingError}
    (settled : x.recipe = .ok recipe) (room : x.config.hasRoom = true)
    (accepts : sink.Accepts into)
    (refuses : Generator.source.Refuses (.ofRecipe recipe) rows error)
    (ran : x.Completes sink into result) : result = .error (.pipeline (.encoding error)) := by
  obtain ⟨events, s, outcome, run, returned, uncancelled, rfl⟩ := ran.returned settled
  obtain rfl := Setup.result_of_refuses (x := ⟨x.config, Generator.source, sink⟩)
    room refuses accepts run returned uncancelled
  rfl

/-- Without room for a batch a run fails before it has pulled a record. -/
theorem Completes.result_of_roomless (settled : x.recipe = .ok recipe)
    (none : x.config.hasRoom = false) (ran : x.Completes sink into result) :
    result = .error (.pipeline .producerCrashed) := by
  obtain ⟨events, s, outcome, run, returned, uncancelled, rfl⟩ := ran.returned settled
  rw [(Setup.barren_of_roomless run none returned uncancelled).crashed]
  rfl

/-- The first user for whom the encoder has to refuse, and what it names in doing so. -/
structure FirstOffender (x : Populator) (user : Int32) (name value : String) (character : Char) :
    Prop where
  present : x.schema.users.Contains user
  rejects : x.encoder.Rejects (x.tagsOf user) name value character
  before : ∀ earlier, x.schema.users.Contains earlier → earlier < user →
    x.encoder.Admits (x.tagsOf earlier)

/-- If every draw has a decimal, the sink refuses nothing and the run is not cancelled, then each
run that returns has succeeded if and only if no label of any user holds a reserved character. Each
that has failed was refused the first label of the first user that does, by its first such
character. Without room for a batch each has failed, whatever the labels are. -/
theorem decided_by_tags (valid : x.Valid)
    (drawable : ∀ recipe, x.recipe = .ok recipe → recipe.Drawable) (accepts : sink.Accepts into)
    (ran : x.Completes sink into result) :
    (x.config.hasRoom = true →
      ((∃ metrics, result = .ok metrics) ↔
          ∀ user, x.schema.users.Contains user → x.encoder.Admits (x.tagsOf user)) ∧
        ((∀ metrics, result ≠ .ok metrics) → ∃ user name value character,
          x.FirstOffender user name value character ∧ name ∈ x.encoder.decisive ∧
            result = .error (.pipeline (.encoding (.reservedCharacter name value character))))) ∧
      (x.config.hasRoom = false → result = .error (.pipeline .producerCrashed)) := by
  obtain ⟨recipe, found⟩ := valid.exists_recipe
  refine ⟨fun room => ?_, fun none => ran.result_of_roomless found none⟩
  have follows := follows_of_recipe found
  obtain ⟨sound, encoder⟩ := valid.sound follows (drawable recipe found)
  have users := follows.users_eq
  have tags := follows.tagsAt_eq
  rcases recipe.admits_or_first_rejects recipe.cadence.totalRecords with
    admits | ⟨k, inside, earlier, name, value, character, rejects⟩
  · obtain ⟨rows, exhausts⟩ := Recipe.exhausts_of_admits sound admits
    obtain ⟨metrics, rfl⟩ := ran.result_of_exhausts found room accepts exhausts
    refine ⟨iff_of_true ⟨metrics, rfl⟩ fun user present => ?_,
      fun failed => absurd rfl (failed metrics)⟩
    obtain ⟨k, inside, rfl⟩ := Recipe.exists_userAt sound.accepted (users ▸ present)
    rw [← tags, ← encoder]
    exact admits k inside
  · obtain ⟨rows, refuses⟩ := Recipe.refuses_of_rejects sound inside earlier rejects
    obtain rfl := ran.result_of_refuses found room accepts refuses
    have present := users ▸ Recipe.users_contains_userAt sound.accepted inside
    rw [encoder, tags] at rejects
    have first : x.FirstOffender (recipe.userAt k) name value character := by
      refine ⟨present, rejects, fun user present less => ?_⟩
      obtain ⟨i, before, rfl⟩ := Recipe.exists_userAt sound.accepted (users ▸ present)
      rw [← tags, ← encoder]
      exact earlier i (Recipe.lt_of_userAt_lt sound.accepted before inside less)
    refine ⟨iff_of_false (by simp) fun all => ?_, fun _ => ⟨recipe.userAt k, name, value,
      character, first, ?_, rfl⟩⟩
    · exact rejects.not_unreserved (all _ present)
    · exact Encoder.name_mem_decisive valid.vetted rejects

/-- Any populator of the small data set, whatever its separator and its sizes. -/
theorem drawable_of_small (separator : Char) (config : PipelineConfig) {recipe : Recipe}
    (found : { small with separator, config }.recipe = .ok recipe) : recipe.Drawable := by
  have follows := follows_of_recipe found
  have key : recipe.key = Recipe.small.key := follows.key
  have draws : recipe.cadence.totalRecords * recipe.catalog.size = 2 := by
    rw [follows.totalRecords_eq, Catalog.size, follows.fields]
    rfl
  intro place inside
  rw [draws] at inside
  rw [key]
  exact Recipe.small_drawable place (Nat.lt_of_lt_of_le inside (by decide))

theorem user_of_small {user : Int32} (present : small.schema.users.Contains user) :
    user = 3 ∨ user = 4 := by
  obtain ⟨low, high⟩ := present
  have first : small.schema.users.first.toInt = 3 := by decide
  have last : small.schema.users.last.toInt = 4 := by decide
  rw [Int32.le_iff_toInt_le, first] at low
  rw [Int32.le_iff_toInt_le, last] at high
  have number : user.toInt = 3 ∨ user.toInt = 4 := by omega
  exact number.imp Int32.toInt_inj.mp Int32.toInt_inj.mp

/-- The small data set with a separator that one of its districts holds. -/
def pinched : Populator := { small with separator := 'u' }

theorem decided_by_tags_pinched : ∃ result,
    pinched.Valid ∧ pinched.config.hasRoom = true ∧
      (∀ recipe, pinched.recipe = .ok recipe → recipe.Drawable) ∧
      pinched.Completes pinched.writer.sink .empty result ∧
      pinched.FirstOffender 4 "district" "zhuhai" 'u' ∧
      result = .error (.pipeline (.encoding (.reservedCharacter "district" "zhuhai" 'u'))) := by
  have refused : (pinched.populateInto false pinched.writer.sink .empty).map (·.1) =
      some (.error (.pipeline (.encoding (.reservedCharacter "district" "zhuhai" 'u')))) := by
    decide +kernel
  obtain ⟨⟨result, rest⟩, ran, rfl⟩ := Option.map_eq_some_iff.mp refused
  have completes := populateInto_completes (fun _ => rfl) ran
  have valid : pinched.Valid := ⟨by decide +kernel, by decide⟩
  have drawable (recipe : Recipe) (found : pinched.recipe = .ok recipe) : recipe.Drawable :=
    drawable_of_small 'u' small.config found
  obtain ⟨-, offends⟩ :=
    (decided_by_tags valid drawable Writer.accepts_of_unlimited completes).1 rfl
  obtain ⟨user, name, value, character, first, -, same⟩ := offends (by simp)
  obtain ⟨rfl, rfl, rfl⟩ : "district" = name ∧ "zhuhai" = value ∧ 'u' = character := by
    simpa using same
  refine ⟨_, valid, rfl, drawable, completes, ?_, rfl⟩
  rcases user_of_small first.present with rfl | rfl
  · have admits : pinched.encoder.Admits (pinched.tagsOf 3) := by decide +kernel
    exact absurd admits first.rejects.not_unreserved
  · exact first

/-- The small data set with batches for which there is no room. -/
def wide : Populator := { small with config := Setup.roomless.config }

/-- Without room for a batch a run fails, although no label is in the way. -/
theorem crashes_though_admitted : ∃ result,
    wide.Valid ∧ (∀ recipe, wide.recipe = .ok recipe → recipe.Drawable) ∧
      wide.writer.sink.Accepts .empty ∧ wide.Completes wide.writer.sink .empty result ∧
      (∀ user, wide.schema.users.Contains user → wide.encoder.Admits (wide.tagsOf user)) ∧
      result = .error (.pipeline .producerCrashed) := by
  have crashed : (wide.populateInto false wide.writer.sink .empty).map (·.1) =
      some (.error (.pipeline .producerCrashed)) := by
    decide +kernel
  obtain ⟨⟨result, rest⟩, ran, rfl⟩ := Option.map_eq_some_iff.mp crashed
  refine ⟨_, ⟨by decide +kernel, by decide⟩, fun recipe found => drawable_of_small ',' _ found,
    Writer.accepts_of_unlimited, populateInto_completes (fun _ => rfl) ran, ?_, rfl⟩
  intro user present
  rcases user_of_small present with rfl | rfl <;> decide +kernel

end Populator

end LoadSeries

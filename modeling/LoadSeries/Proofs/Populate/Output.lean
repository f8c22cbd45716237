import LoadSeries.Proofs.Dataset.Cadence
import LoadSeries.Proofs.Generator.Walk
import LoadSeries.Proofs.Pipeline.Delivery
import LoadSeries.Populate.Basic

/-!
What a populator writes. A run that succeeds, by whatever schedule and with whatever sizes, has
written the records of the data set in the order of their places, each in its encoding and with its
ending, and its counts are those of the data set.
-/
namespace LoadSeries
open Text

namespace Recipe

variable {x : Recipe}

theorem source_generatorAt (accepted : x.cadence.Accepted) {k : Nat}
    (inside : k < x.cadence.totalRecords) :
    match x.bytesAt k with
    | .ok bytes => Generator.source (x.generatorAt k) = .record bytes (x.generatorAt (k + 1))
    | .error e => ∃ rest, Generator.source (x.generatorAt k) = .refused e rest := by
  cases found : x.recordAt k with
  | error e =>
    have step := nextRecord_generatorAt accepted inside
    rw [found] at step
    have failed : x.bytesAt k = .error e := by
      rw [bytesAt, found]
      rfl
    rw [failed]
    simp only [Generator.source, Generator.next?, Generator.advance, step]
    exact ⟨_, rfl⟩
  | ok record =>
    have step := next?_generatorAt accepted inside found
    have encoded : x.bytesAt k = x.encode record := by
      rw [bytesAt, found]
      rfl
    rw [encoded]
    unfold Generator.source
    rw [step]
    cases x.encode record with
    | ok bytes => rfl
    | error e => exact ⟨_, rfl⟩

theorem source_end (accepted : x.cadence.Accepted) :
    Generator.source (x.generatorAt x.cadence.totalRecords) = .finished := by
  simp only [Generator.source, next?_end accepted]

/-- The records that a generator gives as a source are those of the places from its own on. -/
theorem gives_generatorAt (accepted : x.cadence.Accepted) {k : Nat} {rows : List Bytes}
    {rest : Generator} (inside : k ≤ x.cadence.totalRecords)
    (gives : Generator.source.Gives (x.generatorAt k) rows rest) :
    k + rows.length ≤ x.cadence.totalRecords ∧ rest = x.generatorAt (k + rows.length) ∧
      ∀ i (small : i < rows.length), x.bytesAt (k + i) = .ok rows[i] := by
  generalize origin : x.generatorAt k = state at gives
  induction gives generalizing k with
  | nil state =>
    subst origin
    exact ⟨inside, rfl, fun i small => absurd small (Nat.not_lt_zero i)⟩
  | @cons state next rest bytes rows found _ ih =>
    subst origin
    -- A record was given, so the place is not the end and its record could be encoded.
    rcases Nat.lt_or_eq_of_le inside with more | rfl
    · have here := source_generatorAt accepted more
      cases encoded : x.bytesAt k with
      | error e =>
        rw [encoded] at here
        obtain ⟨_, refused⟩ := here
        exact absurd (found.symm.trans refused) (by simp)
      | ok first =>
        rw [encoded] at here
        obtain ⟨rfl, rfl⟩ : bytes = first ∧ next = x.generatorAt (k + 1) := by
          simpa using found.symm.trans here
        obtain ⟨bound, rest_eq, rows_eq⟩ := ih more rfl
        have length : k + 1 + rows.length = k + (bytes :: rows).length := by
          rw [List.length_cons]
          omega
        rw [length] at bound rest_eq
        refine ⟨bound, rest_eq, fun i small => ?_⟩
        cases i with
        | zero => exact encoded
        | succ i =>
          have later : x.bytesAt (k + 1 + i) = .ok rows[i] :=
            rows_eq i (Nat.lt_of_succ_lt_succ small)
          rwa [Nat.add_assoc, Nat.add_comm 1 i] at later
    · exact absurd (found.symm.trans (source_end accepted)) (by simp)

/-- A generator that is read to its end gives one record for each place. -/
theorem exhausts_ofRecipe (accepted : x.cadence.Accepted) {rows : List Bytes}
    (exhausts : Generator.source.Exhausts (.ofRecipe x) rows) :
    rows.length = x.cadence.totalRecords ∧
      ∀ k (inside : k < rows.length), x.bytesAt k = .ok rows[k] := by
  obtain ⟨rest, gives, finished⟩ := exhausts
  rw [← generatorAt_zero] at gives
  obtain ⟨bound, rfl, rows_eq⟩ := gives_generatorAt accepted (Nat.zero_le _) gives
  simp only [Nat.zero_add] at bound finished rows_eq
  refine ⟨?_, rows_eq⟩
  rcases Nat.lt_or_eq_of_le bound with more | whole
  · have here := source_generatorAt accepted more
    cases encoded : x.bytesAt rows.length with
    | ok bytes =>
      rw [encoded] at here
      exact absurd (here.symm.trans finished) (by simp)
    | error e =>
      rw [encoded] at here
      obtain ⟨_, refused⟩ := here
      exact absurd (refused.symm.trans finished) (by simp)
  · exact whole

end Recipe

theorem Schema.cadence_eq_ok {x : Schema} {cadence : Cadence} (found : x.cadence = .ok cadence) :
    cadence.firstUser = x.users.first ∧ cadence.lastUser = x.users.last ∧
      cadence.samplesPerUser = x.samplesPerUser ∧
      x.startTime.toMillis = .ok cadence.startMillis ∧
      Interval.millis x.interval = .ok cadence.intervalMillis ∧ cadence.check = .ok () := by
  unfold Schema.cadence at found
  obtain ⟨start, started, found⟩ := bind_eq_ok_iff.mp found
  obtain ⟨interval, measured, found⟩ := bind_eq_ok_iff.mp found
  obtain ⟨⟨⟩, passed, rfl⟩ := map_eq_ok_iff.mp found
  exact ⟨rfl, rfl, rfl, started, measured, passed⟩

theorem Catalog.ofNames_eq_ok {names : List String} {catalog : Catalog}
    (found : ofNames names = .ok catalog) : catalog.names = names := by
  unfold ofNames at found
  split at found
  · cases found
  · split at found <;> cases found
    rfl

namespace Populator

/-- The recipe that a populator follows, by the data set and the settings that it has. -/
structure Follows (x : Populator) (recipe : Recipe) : Prop where
  firstUser : recipe.cadence.firstUser = x.schema.users.first
  lastUser : recipe.cadence.lastUser = x.schema.users.last
  samples : recipe.cadence.samplesPerUser = x.schema.samplesPerUser
  start : x.schema.startTime.toMillis = .ok recipe.cadence.startMillis
  interval : Interval.millis x.schema.interval = .ok recipe.cadence.intervalMillis
  passed : recipe.cadence.check = .ok ()
  tables : recipe.tables = x.schema.tables
  fields : recipe.catalog.names = x.schema.fields
  encoder : Encoder.ofMode x.mode x.metric x.separator = .ok recipe.encoder
  userType : recipe.userType = x.userType
  key : recipe.key = .ofSeed x.seed.toUInt64

theorem follows_of_recipe {x : Populator} {recipe : Recipe} (settled : x.recipe = .ok recipe) :
    x.Follows recipe := by
  unfold Populator.recipe at settled
  obtain ⟨cadence, axis, settled⟩ := bind_eq_ok_iff.mp settled
  obtain ⟨catalog, named, settled⟩ := bind_eq_ok_iff.mp settled
  obtain ⟨encoder, chosen, settled⟩ := bind_eq_ok_iff.mp settled
  obtain rfl := pure_eq_ok_iff.mp settled
  obtain ⟨first, last, samples, start, interval, passed⟩ :=
    Schema.cadence_eq_ok (mapError_eq_ok_iff.mp axis)
  exact ⟨first, last, samples, start, interval, passed, rfl,
    Catalog.ofNames_eq_ok (mapError_eq_ok_iff.mp named), mapError_eq_ok_iff.mp chosen, rfl, rfl⟩

theorem Follows.accepted {x : Populator} {recipe : Recipe} (follows : x.Follows recipe) :
    recipe.cadence.Accepted :=
  Cadence.accepted_of_check follows.passed

theorem Follows.totalRecords_eq {x : Populator} {recipe : Recipe} (follows : x.Follows recipe) :
    recipe.cadence.totalRecords = x.schema.totalRecords := by
  rw [Cadence.totalRecords, Schema.totalRecords, follows.firstUser, follows.lastUser,
    follows.samples]

variable {τ : Type}

/-- A run of a populator, by any schedule, with its result and what it leaves in the sink. -/
inductive Populates (x : Populator) (cancelled : Bool) (sink : Sink τ) (into : τ) :
    Except PopulateError PopulateMetrics → τ → Prop
  | refused {error : PopulateError} (settled : x.recipe = .error error) :
      Populates x cancelled sink into (.error error) into
  | streamed {recipe : Recipe} {events : List Event} {report : Report τ}
      (settled : x.recipe = .ok recipe)
      (reports : Pipeline.Reports ⟨x.config, .idle, cancelled⟩ Generator.source (.ofRecipe recipe)
        sink into events report) :
      Populates x cancelled sink into
        (report.result.mapError .pipeline |>.map (.ofProgress · recipe.catalog.size)) report.sink

theorem populateInto_eq_some {x : Populator} {cancelled : Bool} {sink : Sink τ} {into rest : τ}
    {result : Except PopulateError PopulateMetrics}
    (ran : x.populateInto cancelled sink into = some (result, rest)) :
    (∃ error, x.recipe = .error error ∧ result = .error error ∧ rest = into) ∨
      ∃ recipe report, x.recipe = .ok recipe ∧
        Pipeline.run ⟨x.config, .idle, cancelled⟩ (enoughSteps recipe.cadence.totalRecords)
          Generator.source (.ofRecipe recipe) sink into = some report ∧
        result = (report.result.mapError .pipeline).map (.ofProgress · recipe.catalog.size) ∧
        rest = report.sink := by
  unfold populateInto at ran
  cases settled : x.recipe with
  | error error =>
    simp only [settled, Option.some.injEq, Prod.mk.injEq] at ran
    exact .inl ⟨error, rfl, ran.1.symm, ran.2.symm⟩
  | ok recipe =>
    simp only [settled, stream] at ran
    obtain ⟨report, reported, same⟩ := Option.map_eq_some_iff.mp ran
    obtain ⟨result_eq, rest_eq⟩ := Prod.mk.inj same
    exact .inr ⟨recipe, report, rfl, reported, result_eq.symm, rest_eq.symm⟩

/-- The schedule that is carried out is one of them. -/
theorem populateInto_populates {x : Populator} {cancelled : Bool} {sink : Sink τ} {into rest : τ}
    {result : Except PopulateError PopulateMetrics}
    (ran : x.populateInto cancelled sink into = some (result, rest)) :
    x.Populates cancelled sink into result rest := by
  rcases populateInto_eq_some ran with
    ⟨error, settled, rfl, rfl⟩ | ⟨recipe, report, settled, reported, rfl, rfl⟩
  · exact .refused settled
  · obtain ⟨events, reports⟩ := Pipeline.run_reports reported
    exact .streamed settled reports

/-- These records as they are written, and the counts of a run that has written them. A word can
count the records and batches of every data set; of the values and bytes it holds what fits. -/
structure Carries (x : Populator) (rows : List Bytes) (bytes : Bytes)
    (metrics : PopulateMetrics) : Prop where
  written : bytes = (rows.map (· ++ x.writer.ending)).flatten
  records : metrics.records.toNat = rows.length
  values : metrics.values = .ofNat (rows.length * x.schema.fields.length)
  batches : metrics.batches.toNat = (rows.length + x.config.batchSize - 1) / x.config.batchSize
  size : metrics.bytes = .ofNat bytes.length

/-- Behind a populator that succeeds there is a run of the pipeline that has. -/
theorem Populates.of_ok {x : Populator} {cancelled : Bool} {sink : Sink τ} {into rest : τ}
    {metrics : PopulateMetrics} (ran : x.Populates cancelled sink into (.ok metrics) rest) :
    ∃ recipe events report counts, x.recipe = .ok recipe ∧
      Pipeline.Reports ⟨x.config, .idle, cancelled⟩ Generator.source (.ofRecipe recipe)
        sink into events report ∧
      report.result = .ok counts ∧ metrics = .ofProgress counts recipe.catalog.size ∧
      rest = report.sink := by
  generalize outcome : (Except.ok metrics : Except PopulateError PopulateMetrics) = result at ran
  cases ran with
  | refused => cases outcome
  | @streamed recipe events report settled reports =>
    obtain ⟨counts, succeeded, same⟩ := map_eq_ok_iff.mp outcome.symm
    exact ⟨recipe, events, report, counts, settled, reports, mapError_eq_ok_iff.mp succeeded,
      same.symm, rfl⟩

/-- Records come in no more batches than there are of them. -/
theorem batches_le (count : Nat) {size : Nat} (positive : 0 < size) :
    (count + size - 1) / size ≤ count := by
  rw [Nat.div_le_iff_le_mul positive]
  have spread := Nat.le_mul_of_pos_right count positive
  omega

theorem Populates.carries {x : Populator} {cancelled : Bool} {sink : Sink τ} {content : τ → Bytes}
    {into rest : τ} {metrics : PopulateMetrics}
    (collects : sink.Collects x.writer.ending content) (fresh : content into = [])
    (ran : x.Populates cancelled sink into (.ok metrics) rest) :
    ∃ (recipe : Recipe) (rows : List Bytes), x.recipe = .ok recipe ∧
      Generator.source.Exhausts (.ofRecipe recipe) rows ∧
        x.Carries rows (content rest) metrics := by
  obtain ⟨recipe, events, report, counts, settled, reports, succeeded, rfl, rfl⟩ := ran.of_ok
  obtain ⟨exhausts, -, answers, -, records, batches, bytes⟩ := reports.success succeeded
  obtain ⟨held, size⟩ := collects.content_eq answers
  have follows := follows_of_recipe settled
  have few : (acceptedRecords events).length < 2 ^ 64 := by
    rw [(Recipe.exhausts_ofRecipe follows.accepted exhausts).1]
    exact recipe.cadence.totalRecords_lt
  have fewer := (batches_le (acceptedRecords events).length x.config.batchSize_pos).trans_lt few
  have written : counts.records = .ofNat (acceptedRecords events).length := by
    rw [records, List.length_map]
  have taken : counts.batches = .ofNat
      (((acceptedRecords events).length + x.config.batchSize - 1) / x.config.batchSize) := by
    rw [batches, List.length_map]
  have drawn : counts.records * .ofNat recipe.catalog.size =
      .ofNat ((acceptedRecords events).length * x.schema.fields.length) := by
    rw [written, ← UInt64.ofNat_mul, Catalog.size, follows.fields]
  simp only [acceptedRecords, acceptedBytes, Event.acceptedWrites_sinkCalls, fresh,
    List.nil_append, List.length_nil, Nat.zero_add] at held size
  refine ⟨recipe, acceptedRecords events, settled, exhausts, held, ?_, drawn, ?_, ?_⟩
  · exact (congrArg UInt64.toNat written).trans (UInt64.toNat_ofNat_of_lt' few)
  · exact (congrArg UInt64.toNat taken).trans (UInt64.toNat_ofNat_of_lt' fewer)
  · rw [size]
    exact bytes

/-- The bytes of a data set, and the counts of a run that has written them. -/
structure Wrote (x : Populator) (rows : List Bytes) (metrics : PopulateMetrics)
    (stored : Storage) : Prop where
  bytes : stored.bytes = (rows.map (· ++ x.writer.ending)).flatten
  records : metrics.records.toNat = rows.length
  values : metrics.values = .ofNat (rows.length * x.schema.fields.length)
  batches : metrics.batches.toNat = (rows.length + x.config.batchSize - 1) / x.config.batchSize
  size : metrics.bytes = .ofNat stored.bytes.length

theorem Populates.wrote {x : Populator} {cancelled : Bool} {metrics : PopulateMetrics}
    {stored : Storage}
    (ran : x.Populates cancelled x.writer.sink .empty (.ok metrics) stored) :
    ∃ (recipe : Recipe) (rows : List Bytes), x.recipe = .ok recipe ∧
      rows.length = recipe.cadence.totalRecords ∧
      (∀ k (inside : k < rows.length), recipe.bytesAt k = .ok rows[k]) ∧
      x.Wrote rows metrics stored := by
  obtain ⟨recipe, rows, settled, exhausts, carries⟩ := ran.carries Writer.collects_unlimited rfl
  obtain ⟨length, encoded⟩ :=
    Recipe.exhausts_ofRecipe (follows_of_recipe settled).accepted exhausts
  exact ⟨recipe, rows, settled, length, encoded, carries.written, carries.records, carries.values,
    carries.batches, carries.size⟩

/-- A run that succeeds has written the records of all places in order, each as its encoder gives it
and with its ending; a run of other sizes, or by another schedule, writes the same and counts the
same but for its batches. -/
theorem output_determined {x : Populator} {cancelled : Bool} {metrics : PopulateMetrics}
    {stored : Storage}
    (ran : x.Populates cancelled x.writer.sink .empty (.ok metrics) stored) :
    ∃ (recipe : Recipe) (rows : List Bytes), x.Follows recipe ∧
      rows.length = x.schema.totalRecords ∧
      (∀ k (inside : k < rows.length), ∃ record,
        recipe.Determines k record ∧ recipe.encode record = .ok rows[k]) ∧
      x.Wrote rows metrics stored ∧
      ∀ config cancelled' metrics' stored',
        { x with config }.Populates cancelled' x.writer.sink .empty (.ok metrics') stored' →
          { x with config }.Wrote rows metrics' stored' ∧ stored'.bytes = stored.bytes ∧
            metrics'.records = metrics.records ∧ metrics'.values = metrics.values ∧
            metrics'.bytes = metrics.bytes := by
  obtain ⟨recipe, rows, settled, length, encoded, wrote⟩ := ran.wrote
  have follows := follows_of_recipe settled
  have accepted := follows.accepted
  refine ⟨recipe, rows, follows, length.trans follows.totalRecords_eq, ?_, wrote, ?_⟩
  · intro k inside
    obtain ⟨record, found, written⟩ := bind_eq_ok_iff.mp (encoded k inside)
    exact ⟨record, (Recipe.recordAt_eq_ok_iff accepted (length ▸ inside)).mp found, written⟩
  · intro config cancelled' metrics' stored' again
    obtain ⟨recipe', rows', settled', length', encoded', wrote'⟩ := again.wrote
    -- Sizes are no part of a recipe, and a recipe determines its rows.
    obtain rfl : recipe' = recipe := Except.ok.inj (settled'.symm.trans settled)
    obtain rfl : rows' = rows := by
      apply List.ext_getElem (length'.trans length.symm)
      intro k inside inside'
      exact Except.ok.inj ((encoded' k inside).symm.trans (encoded k inside'))
    have bytes : stored'.bytes = stored.bytes := wrote'.bytes.trans wrote.bytes.symm
    exact ⟨wrote', bytes, UInt64.toNat_inj.mp (wrote'.records.trans wrote.records.symm),
      wrote'.values.trans wrote.values.symm, by rw [wrote'.size, wrote.size, bytes]⟩

def small : Populator where
  schema :=
    { version := 1
      seed := none
      metric := Schema.standardMetric
      users := ⟨3, 4⟩
      samplesPerUser := 1
      startTime := .millis 1000
      interval := "1s"
      fields := ["voltage"]
      tables := .standard }
  seed := 7
  userType := 0
  mode := .text
  metric := Schema.standardMetric
  separator := ','
  config := ⟨1, 1, 10, Nat.one_pos, Nat.one_pos⟩

theorem small_succeeds : ∃ metrics stored,
    small.Populates false small.writer.sink .empty (.ok metrics) stored := by
  have succeeded : (small.populateInto false small.writer.sink .empty).any (·.1.isOk) = true := by
    decide +kernel
  obtain ⟨⟨result, stored⟩, ran, isOk⟩ := Option.any_eq_true _ _ |>.mp succeeded
  obtain ⟨metrics, rfl⟩ := exists_of_isOk isOk
  exact ⟨metrics, stored, populateInto_populates ran⟩

theorem output_determined_small : ∃ metrics stored,
    small.Populates false small.writer.sink .empty (.ok metrics) stored ∧
      (∃ recipe : Recipe, small.Follows recipe) ∧ metrics.records = 2 ∧ metrics.values = 2 ∧
      metrics.batches = 2 ∧ metrics.bytes = .ofNat stored.bytes.length := by
  obtain ⟨metrics, stored, ran⟩ := small_succeeds
  obtain ⟨recipe, rows, follows, length, -, wrote, -⟩ := output_determined ran
  have two : rows.length = 2 := length
  refine ⟨metrics, stored, ran, ⟨recipe, follows⟩, ?_, ?_, ?_, wrote.size⟩
  · exact UInt64.toNat_inj.mp (wrote.records.trans two)
  · rw [wrote.values, two]
    rfl
  · exact UInt64.toNat_inj.mp (wrote.batches.trans (by rw [two]; rfl))

end Populator

end LoadSeries

import LoadSeries.Proofs.Command.Output
import LoadSeries.Proofs.Command.Seed
import LoadSeries.Proofs.Populate.Targets

/-!
What is written depends neither on the target nor on the way in which the seed was named. The seed
of a description is a number without a sign and that of the arguments one with a sign; both are
the same bits, and the random stream begins with them.
-/
namespace LoadSeries.Command
open Text

variable {paths : Paths} {arguments : Arguments} {populator : Populator}
  {directory : Directory paths} {cancelled : Bool} {metrics : PopulateMetrics} {bytes : Bytes}
  {output key : String}
  {content : Except FileFault Bytes} {other : Option UInt64} {s : UInt64} {n : Int64}

namespace Arguments

/-- The same common arguments with standard output for the target. -/
def toStdout (x : Arguments) : Arguments :=
  { x with target := .stdout, output := "", dryRun := false }

/-- The same common arguments with a file for the target. -/
def toFile (x : Arguments) (output : String) : Arguments :=
  { x with target := .file, output, dryRun := false }

def withDataset (x : Arguments) (dataset : String) : Arguments := { x with dataset }

/-- The runs to both targets succeed with these bytes and counts. -/
structure Reaches (x : Arguments) (directory : Directory paths) (bytes : Bytes)
    (metrics : PopulateMetrics) : Prop where
  stdout : x.toStdout.run false directory = ⟨[], some (.ok (some metrics)), bytes, directory⟩
  file : ∀ output key, directory.place true output = .ok (.file key) →
    (x.toFile output).run false directory =
      ⟨[], some (.ok (some metrics)), [], directory.put key bytes⟩

theorem conclude_eq_ok_iff {result : Except PopulateError PopulateMetrics} :
    arguments.conclude result = .ok (some metrics) ↔ result = .ok metrics := by
  unfold conclude
  rw [map_eq_ok_iff]
  simp only [mapError_eq_ok_iff, Option.some.injEq, exists_eq_right]

section Built

variable (built : arguments.populator (directory.read arguments.dataset) = .ok populator)
include built

theorem run_toStdout : arguments.toStdout.run cancelled directory =
    ⟨[], (populator.populateOutput cancelled).1.map arguments.toStdout.conclude,
      (populator.populateOutput cancelled).2, directory⟩ := by
  have again : arguments.toStdout.populator (directory.read arguments.toStdout.dataset) =
      .ok populator := built
  rw [run, again]
  rfl

theorem run_toFile (found : directory.place true output = .ok (.file key)) :
    (arguments.toFile output).run cancelled directory =
      ⟨[], (populator.populateFile cancelled directory key).1.map
        (arguments.toFile output).conclude, [],
        (populator.populateFile cancelled directory key).2⟩ := by
  have again : (arguments.toFile output).populator
      (directory.read (arguments.toFile output).dataset) = .ok populator := built
  have path : populator.populatePath cancelled directory (arguments.toFile output).output =
      ((populator.populateFile cancelled directory key).1, [],
        (populator.populateFile cancelled directory key).2) := by
    simp only [toFile, Populator.populatePath, found]
  rw [run, again]
  change perform _ _ _ _ = _
  simp only [perform, path]
  rfl

theorem delivers_of_toStdout
    (succeeded : (arguments.toStdout.run cancelled directory).result =
      some (.ok (some metrics))) :
    populator.Delivers (arguments.toStdout.run cancelled directory).stdout metrics := by
  rw [run_toStdout built] at succeeded ⊢
  obtain ⟨result, ran, concluded⟩ := Option.map_eq_some_iff.mp succeeded
  rw [conclude_eq_ok_iff.mp concluded] at ran
  exact Populator.delivers_of_populateOutput (Prod.ext ran rfl)

theorem delivers_of_toFile (found : directory.place true output = .ok (.file key))
    (succeeded : ((arguments.toFile output).run cancelled directory).result =
      some (.ok (some metrics)))
    (held : ((arguments.toFile output).run cancelled directory).directory.files.lookup key =
      some bytes) :
    populator.Delivers bytes metrics := by
  rw [run_toFile built found] at succeeded held
  obtain ⟨result, ran, concluded⟩ := Option.map_eq_some_iff.mp succeeded
  rw [conclude_eq_ok_iff.mp concluded] at ran
  exact Populator.delivers_of_populateFile ran held

/-- One successful run, whatever its target, is followed by that of either command. -/
theorem reaches_of_delivers (delivers : populator.Delivers bytes metrics) :
    ∃ metrics', arguments.Reaches directory bytes metrics' ∧ metrics'.SameCounts metrics := by
  obtain ⟨metrics', stored, ran, rfl, same⟩ :=
    delivers.populateInto Writer.collects_unlimited (rfl : Storage.empty.bytes = [])
  have concluded {x : Arguments} : x.conclude (.ok metrics') = .ok (some metrics') := rfl
  refine ⟨metrics', ⟨?_, fun output key found => ?_⟩, same⟩
  · rw [run_toStdout built, Populator.populateOutput_of_stored ran]
    simp only [Option.map_some, concluded]
  · rw [run_toFile built found, Populator.populateFile_of_stored ran]
    simp only [Option.map_some, concluded]

end Built

section Seed

theorem effectiveSeed_of_some (explicit : arguments.seed = some n) (schema : Schema) :
    arguments.effectiveSeed schema = n := by
  rw [effectiveSeed, explicit]
  rfl

theorem effectiveSeed_of_none {schema : Schema} (unseeded : arguments.seed = none)
    (seeded : schema.seed = some s) : arguments.effectiveSeed schema = s.toInt64 := by
  rw [effectiveSeed, unseeded, seeded]
  rfl

variable (built : arguments.populator content = .ok populator)
include built

theorem key_of_populator {recipe : Recipe} (settled : populator.recipe = .ok recipe) :
    recipe.key = .ofSeed (arguments.effectiveSeed populator.schema).toUInt64 := by
  obtain ⟨schema, -, built⟩ := bind_eq_ok_iff.mp built
  obtain ⟨config, -, built⟩ := bind_eq_ok_iff.mp built
  obtain rfl := pure_eq_ok_iff.mp built
  exact (Populator.follows_of_recipe settled).key

/-- The seed of a description, given as an argument as well, makes for the same populator. -/
theorem populator_of_seed (unseeded : arguments.seed = none)
    (seeded : populator.schema.seed = some s) :
    (arguments.withSeed s.toInt64).populator content = .ok populator := by
  obtain ⟨schema, loaded, built⟩ := bind_eq_ok_iff.mp built
  obtain ⟨config, sized, built⟩ := bind_eq_ok_iff.mp built
  obtain rfl := pure_eq_ok_iff.mp built
  have same : (arguments.withSeed s.toInt64).effectiveSeed schema =
      arguments.effectiveSeed schema :=
    (effectiveSeed_of_some rfl schema).trans (effectiveSeed_of_none unseeded seeded).symm
  refine bind_eq_ok_iff.mpr ⟨schema, loaded, bind_eq_ok_iff.mpr ⟨config, sized, ?_⟩⟩
  rw [same]
  rfl

theorem populator_reseeded {content' : Except FileFault Bytes} (dataset : String)
    (explicit : arguments.seed = some n)
    (loaded : Schema.ofFile content' = .ok (populator.schema.reseeded other)) :
    (arguments.withDataset dataset).populator content' = .ok (populator.reseeded other) := by
  obtain ⟨schema, -, built⟩ := bind_eq_ok_iff.mp built
  obtain ⟨config, sized, built⟩ := bind_eq_ok_iff.mp built
  obtain rfl := pure_eq_ok_iff.mp built
  refine bind_eq_ok_iff.mpr
    ⟨_, mapError_eq_ok_iff.mpr loaded, bind_eq_ok_iff.mpr ⟨config, sized, ?_⟩⟩
  have explicit' : (arguments.withDataset dataset).seed = some n := explicit
  simp only [Populator.reseeded, effectiveSeed_of_some explicit, effectiveSeed_of_some explicit']
  rfl

end Seed

theorem perform_reseeded {dataset : String} :
    (arguments.withDataset dataset).perform (populator.reseeded other) cancelled directory =
      arguments.perform populator cancelled directory := rfl

theorem run_of_populator
    (built : arguments.populator (directory.read arguments.dataset) = .ok populator) :
    arguments.run cancelled directory = arguments.perform populator cancelled directory := by
  rw [run, built]

end Arguments

theorem execute_of_run {words words' : List String} {other : Arguments}
    (read : Arguments.ofWords words = .ok arguments) (read' : Arguments.ofWords words' = .ok other)
    (same : other.run false directory = arguments.run false directory) :
    execute words' directory = execute words directory := by
  simp only [execute, read, read', same]

/-- If one run of a populator succeeds, to standard output, to a file or into a sink, then so do
all the others that are not cancelled, and they have the same bytes and the same counts. Where no
seed is among the arguments, the random stream begins with that of the description, and the run is
the one for which the same number, taken with a sign, is among the arguments. Where a seed is among
them, the description may as well have any other or none. -/
theorem targets_and_seeds_agree
    (built : arguments.populator (directory.read arguments.dataset) = .ok populator) :
    (∀ cancelled metrics,
        ((arguments.toStdout.run cancelled directory).result = some (.ok (some metrics)) →
          populator.Delivers (arguments.toStdout.run cancelled directory).stdout metrics) ∧
        ∀ output key bytes, directory.place true output = .ok (.file key) →
          ((arguments.toFile output).run cancelled directory).result = some (.ok (some metrics)) →
          ((arguments.toFile output).run cancelled directory).directory.files.lookup key =
            some bytes →
          populator.Delivers bytes metrics) ∧
      (∀ bytes metrics, populator.Delivers bytes metrics →
        (∀ bytes' metrics', populator.Delivers bytes' metrics' →
          bytes' = bytes ∧ metrics'.SameCounts metrics) ∧
        (∃ metrics', arguments.Reaches directory bytes metrics' ∧ metrics'.SameCounts metrics) ∧
        ∀ (τ : Type) (sink : Sink τ) (content : τ → Bytes) (into : τ),
          sink.Collects populator.writer.ending content → content into = [] →
            ∃ metrics' rest, populator.populateInto false sink into = some (.ok metrics', rest) ∧
              content rest = bytes ∧ metrics'.SameCounts metrics) ∧
      (arguments.seed = none → ∀ s, populator.schema.seed = some s →
        (∀ recipe, populator.recipe = .ok recipe → recipe.key = .ofSeed s) ∧
        (arguments.withSeed s.toInt64).populator (directory.read arguments.dataset) =
          .ok populator ∧
        (∀ cancelled, (arguments.withSeed s.toInt64).run cancelled directory =
          arguments.run cancelled directory) ∧
        ∀ (target : Target) words,
          Arguments.ofWords ("populate" :: target.name :: words) = .ok arguments →
          execute ("populate" :: target.name :: "--seed" :: intString s.toInt64.toInt :: words)
              directory =
            execute ("populate" :: target.name :: words) directory) ∧
      ∀ n, arguments.seed = some n →
        (∀ recipe, populator.recipe = .ok recipe → recipe.key = .ofSeed n.toUInt64) ∧
        ∀ other,
          (∀ content, Schema.ofFile content = .ok (populator.schema.reseeded other) →
            arguments.populator content = .ok (populator.reseeded other)) ∧
          (∀ bytes metrics, (populator.reseeded other).Delivers bytes metrics ↔
            populator.Delivers bytes metrics) ∧
          (∀ (τ : Type) (sink : Sink τ) (into : τ) cancelled result rest,
            (populator.reseeded other).Populates cancelled sink into result rest ↔
              populator.Populates cancelled sink into result rest) ∧
          ∀ dataset, Schema.ofFile (directory.read dataset) =
              .ok (populator.schema.reseeded other) →
            ∀ cancelled, (arguments.withDataset dataset).run cancelled directory =
              arguments.run cancelled directory := by
  refine ⟨fun cancelled metrics => ⟨Arguments.delivers_of_toStdout built, ?_⟩, ?_, ?_, ?_⟩
  · intro output key bytes found
    exact Arguments.delivers_of_toFile built found
  · intro bytes metrics delivers
    refine ⟨fun bytes' metrics' => delivers.same, Arguments.reaches_of_delivers built delivers, ?_⟩
    intro τ sink content into collects fresh
    exact delivers.populateInto collects fresh
  · intro unseeded s seeded
    have again := Arguments.populator_of_seed built unseeded seeded
    have same (cancelled : Bool) : (arguments.withSeed s.toInt64).run cancelled directory
        = arguments.run cancelled directory := by
      rw [Arguments.run_of_populator built, Arguments.run_of_populator again]
      rfl
    refine ⟨fun recipe settled => ?_, again, same, fun target words read => ?_⟩
    · have key := Arguments.key_of_populator built settled
      rw [Arguments.effectiveSeed_of_none unseeded seeded] at key
      exact key
    · exact execute_of_run read (Arguments.ofWords_seed read unseeded s.toInt64) (same false)
  · intro n explicit
    refine ⟨fun recipe settled => ?_, fun other => ⟨?_, ?_, ?_, ?_⟩⟩
    · have key := Arguments.key_of_populator built settled
      rwa [Arguments.effectiveSeed_of_some explicit] at key
    · intro content loaded
      exact Arguments.populator_reseeded built arguments.dataset explicit loaded
    · intro bytes metrics
      exact Populator.delivers_reseeded_iff
    · intro τ sink into cancelled result rest
      exact Populator.populates_reseeded_iff
    · intro dataset loaded cancelled
      have again := Arguments.populator_reseeded built dataset explicit loaded
      rw [Arguments.run_of_populator built, Arguments.run_of_populator again]
      exact Arguments.perform_reseeded

/-- The description with the greatest seed there is. -/
def greatest : Bytes := stringBytes "seed: 18446744073709551615\n" ++ description

/-- It and, beside it, the description without a seed. -/
def drawer : Directory where
  files := [("in", greatest), ("bare", description)]

def common : Arguments where
  target := .stdout
  output := ""
  dataset := "in"
  seed := none
  userType := 0
  mode := .text
  metric := none
  separator := Line.standardSeparator
  batchSize := Arguments.standardBatchSize
  queueCapacity := Arguments.standardQueueCapacity
  dryRun := false

theorem ofWords_common : Arguments.ofWords ["populate", "stdout", "-d", "in"] = .ok common := rfl

theorem read_drawer :
    drawer.read "in" = .ok greatest ∧ drawer.read "bare" = .ok description := by
  constructor <;> rfl

theorem place_drawer : drawer.place true "out" = .ok (.file "out") := rfl

theorem bare_of_drawer : Schema.ofFile (drawer.read "bare") =
    (Schema.ofFile (drawer.read "in")).map (·.reseeded none) := by
  rw [read_drawer.1, read_drawer.2]
  decide +kernel

theorem common_succeeds : ∃ populator bytes,
    common.populator (drawer.read common.dataset) = .ok populator ∧
      populator.schema.seed = some 18446744073709551615 ∧
      populator.populateOutput false = (some (.ok ⟨2, 2, 1, 98, 0⟩), bytes) := by
  have settled : ((common.populator (drawer.read common.dataset)).map fun x =>
      ((x.populateOutput false).1, x.schema.seed)) =
        .ok (some (.ok ⟨2, 2, 1, 98, 0⟩), some 18446744073709551615) := by
    rw [show drawer.read common.dataset = _ from read_drawer.1]
    decide +kernel
  obtain ⟨populator, built, same⟩ := map_eq_ok_iff.mp settled
  obtain ⟨ran, seeded⟩ := Prod.mk.inj same
  exact ⟨populator, _, built, seeded, Prod.ext ran rfl⟩

theorem targets_and_seeds_agree_greatest : ∃ (bytes : Bytes) (metrics : PopulateMetrics),
    common.toStdout.run false drawer = ⟨[], some (.ok (some metrics)), bytes, drawer⟩ ∧
      (common.toFile "out").run false drawer =
        ⟨[], some (.ok (some metrics)), [], drawer.put "out" bytes⟩ ∧
      (metrics.records, metrics.values, metrics.batches, metrics.bytes) = (2, 2, 1, 98) ∧
      execute ["populate", "stdout", "--seed", "-1", "-d", "in"] drawer =
        execute ["populate", "stdout", "-d", "in"] drawer ∧
      ((common.withSeed (-1)).withDataset "bare").run false drawer =
        (common.withSeed (-1)).run false drawer := by
  obtain ⟨populator, bytes, built, seeded, ran⟩ := common_succeeds
  obtain ⟨-, targets, unseeded, -⟩ := targets_and_seeds_agree built
  have delivers := Populator.delivers_of_populateOutput ran
  obtain ⟨-, ⟨metrics, reaches, same⟩, -⟩ := targets _ _ delivers
  obtain ⟨-, again, -, words⟩ := unseeded rfl _ seeded
  have number : intString (UInt64.toInt64 18446744073709551615).toInt = "-1" := by decide +kernel
  rw [number] at words
  have again : (common.withSeed (-1)).populator (drawer.read (common.withSeed (-1)).dataset) =
      .ok populator := again
  obtain ⟨-, -, -, explicit⟩ := targets_and_seeds_agree again
  have loaded : Schema.ofFile (drawer.read "in") = .ok populator.schema :=
    (Arguments.settled_of_populator built).1
  have bare : Schema.ofFile (drawer.read "bare") = .ok (populator.schema.reseeded none) := by
    rw [bare_of_drawer, loaded]
    rfl
  obtain ⟨-, -, -, runs⟩ := (explicit (-1) rfl).2 none
  refine ⟨bytes, metrics, reaches.stdout, reaches.file "out" "out" place_drawer, ?_, ?_,
    runs "bare" bare false⟩
  · rw [same.records, same.values, same.batches, same.bytes]
  · exact words .stdout ["-d", "in"] ofWords_common

end LoadSeries.Command

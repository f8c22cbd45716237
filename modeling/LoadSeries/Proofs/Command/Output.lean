import LoadSeries.Command.Run
import LoadSeries.Proofs.Command.Words
import LoadSeries.Proofs.Populate.Files

/-!
What becomes of an output file. All that can keep a command line from being carried out is settled
while the file is still as it was; from there on the file holds what the sink has taken and nothing
else, however the run ends.
-/
namespace LoadSeries
open Text

theorem PipelineConfig.pos_of_ofSizes {batchSize queueCapacity : Nat} {config : PipelineConfig}
    (found : ofSizes batchSize queueCapacity = .ok config) :
    0 < batchSize ∧ 0 < queueCapacity := by
  unfold ofSizes at found
  split at found
  · split at found
    · exact ⟨by assumption, by assumption⟩
    · cases found
  · cases found

theorem Schema.validate_of_ofFile {content : Except FileFault Bytes} {schema : Schema}
    (loaded : ofFile content = .ok schema) : schema.validate = .ok () := by
  unfold ofFile at loaded
  split at loaded
  · cases loaded
  · split at loaded
    · unfold ofYaml at loaded
      split at loaded
      · cases loaded
      · obtain ⟨⟨⟩, valid, rfl⟩ := map_eq_ok_iff.mp loaded
        exact valid
    · cases loaded

namespace Command

variable {paths : Paths} {arguments : Arguments} {populator : Populator}
  {directory : Directory paths} {words : List String} {cancelled : Bool}

namespace Arguments

theorem settled_of_populator {content : Except FileFault Bytes}
    (built : arguments.populator content = .ok populator) :
    Schema.ofFile content = .ok populator.schema ∧
      (0 < arguments.batchSize ∧ 0 < arguments.queueCapacity) ∧
      populator.mode = arguments.mode ∧ populator.separator = arguments.separator := by
  obtain ⟨schema, loaded, built⟩ := bind_eq_ok_iff.mp built
  obtain ⟨config, sized, built⟩ := bind_eq_ok_iff.mp built
  obtain rfl := pure_eq_ok_iff.mp built
  exact ⟨mapError_eq_ok_iff.mp loaded,
    PipelineConfig.pos_of_ofSizes (mapError_eq_ok_iff.mp sized), rfl, rfl⟩

end Arguments

def description : Bytes := stringBytes <|
  "version: 1\nusers:\n  start: 3\n  end: 4\nsamples_per_user: 1\nstart_time: 0\n" ++
    "interval: 1s\nfields:\n  - voltage\n"

variable {content older : Bytes}

def order : List String := ["-d", "in", "-o", "//tmp/./out"]

theorem ofWords_order : Arguments.ofWords ("populate" :: "file" :: order) = .ok {
    target := .file
    output := "//tmp/./out"
    dataset := "in"
    seed := none
    userType := 0
    mode := .text
    metric := none
    separator := Line.standardSeparator
    batchSize := Arguments.standardBatchSize
    queueCapacity := Arguments.standardQueueCapacity
    dryRun := false } := rfl

end Command

end LoadSeries

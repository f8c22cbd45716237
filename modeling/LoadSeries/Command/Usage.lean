/-! The options of the program, and what can be wrong about the words of a command line. -/
namespace LoadSeries.Command

inductive Setting where
  | output
  | dataset
  | seed
  | userType
  | encoding
  | metric
  | separator
  | batchSize
  | queueCapacity
deriving DecidableEq, Repr

namespace Setting

def all : List Setting :=
  [output, dataset, seed, userType, encoding, metric, separator, batchSize, queueCapacity]

def name : Setting → String
  | output => "output"
  | dataset => "dataset"
  | seed => "seed"
  | userType => "user-type"
  | encoding => "encoding"
  | metric => "metric"
  | separator => "separator"
  | batchSize => "batch-size"
  | queueCapacity => "queue-capacity"

def valueName : Setting → String
  | output => "OUTPUT"
  | dataset => "DATASET"
  | seed => "SEED"
  | userType => "USER_TYPE"
  | encoding => "ENCODING"
  | metric => "METRIC"
  | separator => "SEPARATOR"
  | batchSize => "BATCH_SIZE"
  | queueCapacity => "QUEUE_CAPACITY"

def letter? : Setting → Option Char
  | output => some 'o'
  | dataset => some 'd'
  | _ => none

def usage (x : Setting) : String := "--" ++ x.name ++ " <" ++ x.valueName ++ ">"

end Setting

inductive Flag where
  | dryRun
  | help
deriving DecidableEq, Repr

namespace Flag

def name : Flag → String
  | dryRun => "dry-run"
  | help => "help"

def letter? : Flag → Option Char
  | dryRun => none
  | help => some 'h'

def usage (x : Flag) : String := "--" ++ x.name

end Flag

inductive UsageError where
  | help
  | missingCommand
  | unknownCommand
  | unknownArgument (word : String)
  | missingRequired
  | repeated (option : String)
  | attachedValue (option : String)
  /-- A value that is not there, or is none of those that there are. -/
  | invalidValue (setting : Setting)
  /-- A value that cannot be read, and the reason where the program itself gives it. -/
  | unreadableValue (setting : Setting) (reason : Option String)
deriving DecidableEq, Repr

def usageLines : List String :=
  ["Usage: populate file --output <OUTPUT> --dataset <DATASET> [OPTIONS]",
    "       populate stdout --dataset <DATASET> [OPTIONS]",
    "Options: --seed, --user-type, --encoding, --metric, --separator, --batch-size,",
    "         --queue-capacity, --dry-run, --help"]

/-- What is said to the user before the usage; nothing if help was asked for. -/
def UsageError.message : UsageError → String
  | .help => ""
  | .missingCommand => "a command is missing"
  | .unknownCommand => "there is no such command"
  | .unknownArgument word => "unexpected argument '" ++ word ++ "'"
  | .missingRequired => "a required option is missing"
  | .repeated option => "'" ++ option ++ "' is given twice"
  | .attachedValue option => "'" ++ option ++ "' takes no value"
  | .invalidValue setting => "no possible value for '" ++ setting.usage ++ "'"
  | .unreadableValue setting reason =>
    "invalid value for '" ++ setting.usage ++ "'" ++ ((reason.map (": " ++ ·)).getD "")

end LoadSeries.Command

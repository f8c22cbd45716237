import LoadSeries.Dataset.Schema
import LoadSeries.Text.Utf8
import LoadSeries.Yaml.Decode

/-! Descriptions of data sets from YAML. -/
namespace LoadSeries

open Text Yaml Yaml.Document

structure UserRangeDraft where
  first : Option Int32 := none
  last : Option Int32 := none

structure SchemaDraft where
  version : Option UInt32 := none
  seed : Option (Option UInt64) := none
  metric : Option String := none
  users : Option UserRange := none
  samplesPerUser : Option UInt32 := none
  startTime : Option StartTime := none
  interval : Option String := none
  fields : Option (List String) := none
  tables : Option Tables := none

namespace UserRangeDraft

def assign (x : Document) : Assign UserRangeDraft
  | _, "start" => some fun path node draft => do
    return { draft with first := some (← x.int32 path node) }
  | _, "end" => some fun path node draft => do
    return { draft with last := some (← x.int32 path node) }
  | _, _ => none

def complete (spot : Spot) (draft : UserRangeDraft) : Decode UserRange := do
  let first ← Decode.required spot "start" draft.first
  let last ← Decode.required spot "end" draft.last
  return ⟨first, last⟩

end UserRangeDraft

def UserRange.decode (x : Document) (path : Path) (node : Node) : Decode UserRange :=
  x.composite "struct UserRange" (UserRangeDraft.assign x) {} UserRangeDraft.complete path node

namespace Tables

def assign (x : Document) : Assign Tables
  | _, "provinces" => some fun path node tables => do
    return { tables with provinces := ← x.strings path node }
  | _, "districts" => some fun path node tables => do
    return { tables with districts := ← x.strings path node }
  | _, "systems" => some fun path node tables => do
    return { tables with systems := ← x.strings path node }
  | _, "alarm_types" => some fun path node tables => do
    return { tables with alarmTypes := ← x.strings path node }
  | _, "mpid_width" => some fun path node tables => do
    return { tables with mpidWidth := ← x.uint32 path node }
  | _, "line_count" => some fun path node tables => do
    return { tables with lineCount := ← x.uint32 path node }
  | _, "area_count" => some fun path node tables => do
    return { tables with areaCount := ← x.uint32 path node }
  | _, _ => none

def decode (x : Document) (path : Path) (node : Node) : Decode Tables :=
  x.composite "struct LookupTables" (assign x) standard (fun _ tables => pure tables) path node

end Tables

/-- A start time is an integer of 64 bits or a string, and a node of any other type is neither. -/
def StartTime.decode (x : Document) (parent : Spot) (path : Path) (node : Node) :
    Decode StartTime := do
  match ← x.any (Document.maxDepth - 1) path node with
  | .integer n =>
    if n < 0x8000000000000000 then return .millis (Int64.ofInt n)
    else Decode.fault parent (.noVariant "StartTime")
  | .string s => return .text s
  | _ => Decode.fault parent (.noVariant "StartTime")

namespace SchemaDraft

def assign (x : Document) : Assign SchemaDraft
  | _, "version" => some fun path node draft => do
    return { draft with version := some (← x.uint32 path node) }
  | parent, "seed" => some fun path node draft => do
    return { draft with seed := some (← x.optionalUInt64 parent path node) }
  | _, "metric" => some fun path node draft => do
    return { draft with metric := some (← x.string path "a string" node) }
  | _, "users" => some fun path node draft => do
    return { draft with users := some (← UserRange.decode x path node) }
  | _, "samples_per_user" => some fun path node draft => do
    return { draft with samplesPerUser := some (← x.uint32 path node) }
  | parent, "start_time" => some fun path node draft => do
    return { draft with startTime := some (← StartTime.decode x parent path node) }
  | _, "interval" => some fun path node draft => do
    return { draft with interval := some (← x.string path "a string" node) }
  | _, "fields" => some fun path node draft => do
    return { draft with fields := some (← x.strings path node) }
  | _, "dimensions" => some fun path node draft => do
    return { draft with tables := some (← Tables.decode x path node) }
  | _, _ => none

/-- The description, if no field is missing that has to be there. -/
def complete (spot : Spot) (draft : SchemaDraft) : Decode Schema := do
  let version ← Decode.required spot "version" draft.version
  let users ← Decode.required spot "users" draft.users
  let samplesPerUser ← Decode.required spot "samples_per_user" draft.samplesPerUser
  let startTime ← Decode.required spot "start_time" draft.startTime
  let interval ← Decode.required spot "interval" draft.interval
  let fields ← Decode.required spot "fields" draft.fields
  return {
    version
    seed := draft.seed.getD none
    metric := draft.metric.getD Schema.standardMetric
    users, samplesPerUser, startTime, interval, fields
    tables := draft.tables.getD Tables.standard }

end SchemaDraft

namespace Schema

def decode (x : Document) (node : Node) : Decode Schema :=
  x.composite "struct DatasetSchema" (SchemaDraft.assign x) {} SchemaDraft.complete .root node

def ofYaml? (text : List Char) : Except Problem Schema :=
  let x := Document.ofText text
  x.decode (decode x)

def ofYaml (text : List Char) : Except ConfigError Schema :=
  match ofYaml? text with
  | .error problem => .error (.malformed problem)
  | .ok schema => schema.validate.map fun _ => schema

/-- The valid description that a file of YAML holds, by what reading the file has brought. -/
def ofFile : Except FileFault Bytes → Except ConfigError Schema
  | .error fault => .error (.unreadable fault)
  | .ok content =>
    match strictText? content with
    | some text => ofYaml text
    | none => .error (.unreadable .notText)

end Schema

end LoadSeries

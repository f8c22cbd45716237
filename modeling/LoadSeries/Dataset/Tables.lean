import LoadSeries.Dataset.Error

/-!
The tags of a user, resolved from lookup tables: an entry of each table by the user's key, a padded
number, and two counters.
-/
namespace LoadSeries

open Text

structure Tags where
  province : String
  district : String
  system : String
  mpid : String
  alarmType : String
  line : String
  area : String
deriving DecidableEq, Repr

namespace Tags

def columns (x : Tags) : List (String × String) :=
  [("province", x.province), ("district", x.district), ("system", x.system), ("mpid", x.mpid),
    ("alarm_type", x.alarmType), ("line", x.line), ("area", x.area)]

def series (x : Tags) (user : Int32) : List (String × String) :=
  [("AREA", x.area), ("BJLX", x.alarmType), ("DISTRICT", x.district), ("LINE", x.line),
    ("MPID", x.mpid), ("PROVINCE", x.province), ("SYSTEM", x.system),
    ("ZCUSID", intString user.toInt)]

end Tags

structure Tables where
  provinces : List String
  districts : List String
  systems : List String
  alarmTypes : List String
  mpidWidth : UInt32
  lineCount : UInt32
  areaCount : UInt32
deriving DecidableEq, Repr

namespace Tables

def standard : Tables where
  provinces := ["gd", "bj", "sh", "zj", "js"]
  districts := ["zhuhai", "shenzhen", "guangzhou", "foshan"]
  systems := ["TMR", "EMS", "SCADA"]
  alarmTypes := ["1", "2", "3", "4"]
  mpidWidth := 5
  lineCount := 100
  areaCount := 10

/-- The sizes that must not be zero, in the order in which they are checked. -/
def sizes (x : Tables) : List (String × Nat) :=
  [("provinces", x.provinces.length), ("districts", x.districts.length),
    ("systems", x.systems.length), ("alarm_types", x.alarmTypes.length),
    ("line_count", x.lineCount.toNat), ("area_count", x.areaCount.toNat)]

def maxMpidWidth : Nat := 9

/-- Checks that every lookup finds an entry and that the padded number is of a fair width. -/
def check (x : Tables) : Except ConfigError Unit :=
  match x.sizes.find? (fun entry => entry.2 == 0) with
  | some (name, _) => .error (.emptyDimensionTable name)
  | none =>
    if 1 ≤ x.mpidWidth.toNat ∧ x.mpidWidth.toNat ≤ maxMpidWidth then .ok ()
    else .error (.invalidMpidWidth x.mpidWidth.toNat)

/-- The key of a user: its number, a negative one counted down from the greatest word. -/
def userKey (user : Int32) : UInt64 := UInt64.ofInt user.toInt

/-- The entry of a table at a key, taken round and round. An empty table gives the empty text. -/
def pick (table : List String) (key : UInt64) : String :=
  table.getD (key.toNat % table.length) ""

/-- The number of a measuring point: the last digits of a key, as many as the width says. A width
that no word of 64 bits fills keeps every digit. -/
def pointNumber (width : Nat) (key : UInt64) : List Char :=
  if tenTo width < twoTo 64 then paddedDigits width (key.toNat % tenTo width)
  else paddedDigits width key.toNat

def counter (label : String) (count : UInt32) (key : UInt64) : String :=
  label ++ natString (key.toNat % max count.toNat 1)

/-- The tags of a user; its type shifts the kind of alarm. -/
def resolve (x : Tables) (user : Int32) (userType : UInt32) : Tags :=
  let key := userKey user
  { province := pick x.provinces key
    district := pick x.districts key
    system := pick x.systems key
    mpid := String.ofList (pointNumber x.mpidWidth.toNat key)
    alarmType := pick x.alarmTypes (key + userType.toUInt64)
    line := counter "line_" x.lineCount key
    area := counter "area_" x.areaCount key }

end Tables

end LoadSeries

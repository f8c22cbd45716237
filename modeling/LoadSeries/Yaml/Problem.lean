import LoadSeries.Binary64.Shortest
import LoadSeries.Text.Quoted
import LoadSeries.Yaml.SyntaxFault

/-! Causes for which a YAML text is not a value of the type wanted. -/
namespace LoadSeries.Yaml

open Text

inductive Found where
  | boolean (value : Bool)
  | integer (value : Int)
  | wideInteger (value : Int)
  | float (value : Binary64)
  | string (value : String)
  | unit
  | sequence
  | map
deriving DecidableEq, Repr

def Found.text : Found → String
  | .boolean value => "boolean `" ++ (if value then "true" else "false") ++ "`"
  | .integer value => "integer `" ++ intString value ++ "`"
  | .wideInteger value =>
    "integer `" ++ intString value ++ "` as " ++ (if value < 0 then "i128" else "u128")
  | .float value => "floating point `" ++ String.ofList value.pointedText ++ "`"
  | .string value => "string " ++ quoted value
  | .unit => "unit value"
  | .sequence => "sequence"
  | .map => "map"

inductive Fault where
  | missingField (name : String)
  | duplicateField (name : String)
  | invalidType (found : Found) (expected : String)
  | invalidValue (found : Found) (expected : String)
  | noVariant (type : String)
  | ownType
deriving DecidableEq, Repr

def Fault.text : Fault → String
  | .missingField name => "missing field `" ++ name ++ "`"
  | .duplicateField name => "duplicate field `" ++ name ++ "`"
  | .invalidType found expected => "invalid type: " ++ found.text ++ ", expected " ++ expected
  | .invalidValue found expected => "invalid value: " ++ found.text ++ ", expected " ++ expected
  | .noVariant type => "data did not match any variant of untagged enum " ++ type
  | .ownType => "untagged and internally tagged enums do not support enum input"

inductive Path where
  | root
  | key (parent : Path) (name : String)
  | element (parent : Path) (index : Nat)
  | unknown (parent : Path)
deriving DecidableEq, Repr

def Path.text : Path → String
  | .root => "."
  | .key .root name => name
  | .key parent name => parent.text ++ "." ++ name
  | .element parent index => parent.text ++ "[" ++ natString index ++ "]"
  | .unknown .root => "?"
  | .unknown parent => parent.text ++ ".?"

structure Spot where
  path : Path
  mark : Mark
deriving DecidableEq, Repr

inductive Problem where
  | syntactic (fault : SyntaxFault)
  | severalDocuments
  | tooDeep (mark : Mark)
  | tooManyFollows
  | data (spot : Spot) (fault : Fault)
deriving DecidableEq, Repr

namespace Problem

def text : Problem → String
  | syntactic fault => fault.text
  | severalDocuments =>
    "deserializing from YAML containing more than one document is not supported"
  | tooDeep mark => "recursion limit exceeded" ++ mark.suffix
  | tooManyFollows => "repetition limit exceeded"
  | data ⟨.root, mark⟩ fault => fault.text ++ mark.suffix
  | data ⟨path, mark⟩ fault => path.text ++ ": " ++ fault.text ++ mark.suffix

def unplaced : Problem → Problem
  | data spot fault => data { spot with mark := .origin } fault
  | problem => problem

end Problem

end LoadSeries.Yaml

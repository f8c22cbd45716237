import LoadSeries.Text.Utf8
import LoadSeries.Yaml.SyntaxFault

/-! The tokens of a YAML text. -/
namespace LoadSeries.Yaml

open Text

inductive Style where
  | plain
  | singleQuoted
  | doubleQuoted
  | literal
  | folded
deriving DecidableEq, Repr

inductive Token where
  | streamEnd
  | versionDirective (major minor : Nat)
  | tagDirective (handle : List Char) (expansion : Bytes)
  | documentStart
  | documentEnd
  | blockSequenceStart
  | blockMappingStart
  | blockEnd
  | flowSequenceStart
  | flowSequenceEnd
  | flowMappingStart
  | flowMappingEnd
  | blockEntry
  | flowEntry
  | key
  | value
  | alias (name : List Char)
  | anchor (name : List Char)
  | tag (handle : List Char) (suffix : Bytes)
  | scalar (text : List Char) (style : Style)
deriving DecidableEq, Repr

structure Lexeme where
  token : Token
  start : Mark
  stop : Mark
deriving DecidableEq, Repr

end LoadSeries.Yaml

import LoadSeries.Record.Frame
import LoadSeries.Record.Line
import LoadSeries.Record.Point

/-! The ways to write a record, of which a run chooses one. -/
namespace LoadSeries

open Text

inductive Mode where
  | text
  | framed
  | unframed
deriving DecidableEq, Repr

namespace Mode

def name : Mode → String
  | .text => "text"
  | .framed => "binary-framed"
  | .unframed => "binary-unframed"

def ofName? (s : String) : Option Mode := [text, framed, unframed].find? (·.name == s)

def unknownMessage (s : String) : String :=
  "unknown encoding '" ++ s ++ "' (expected text, binary-framed or binary-unframed)"

/-- The bytes behind every record; a frame needs none. -/
def terminator : Mode → Option Bytes
  | .text | .unframed => some [10]
  | .framed => none

end Mode

inductive Encoder where
  | text (separator : Char)
  /-- Requests behind their lengths. -/
  | framed (metric : String)
  /-- Requests read as text, with what is no text replaced. -/
  | unframed (metric : String)
deriving DecidableEq, Repr

namespace Encoder

def standard : Encoder := .text Line.standardSeparator

/-- The encoder of a mode. A separator matters for text alone and is checked there. -/
def ofMode (mode : Mode) (metric : String) (separator : Char) : Except EncodingError Encoder :=
  match mode with
  | .text => (Line.checkSeparator separator).map fun _ => .text separator
  | .framed => .ok (.framed metric)
  | .unframed => .ok (.unframed metric)

def mode : Encoder → Mode
  | .text _ => .text
  | .framed _ => .framed
  | .unframed _ => .unframed

def encode (x : Encoder) (record : Record) (catalog : Catalog) : Except EncodingError Bytes :=
  match x with
  | .text separator => (Line.encode separator record catalog).map utf8
  | .framed metric => (Point.request metric record catalog).map Frame.encode
  | .unframed metric => (Point.request metric record catalog).map lossy

end Encoder

end LoadSeries

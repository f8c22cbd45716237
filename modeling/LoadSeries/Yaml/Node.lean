import LoadSeries.Yaml.Problem
import LoadSeries.Yaml.Token.Basic

/-! The nodes of a YAML document, and the document with the nodes that its aliases stand for. -/
namespace LoadSeries.Yaml

open Text

structure Scalar where
  text : List Char
  style : Style
  tag : Option Bytes
deriving DecidableEq, Repr

inductive Node where
  | broken (problem : Problem)
  | alias (mark : Mark) (anchor : Nat)
  | scalar (mark : Mark) (value : Scalar)
  | sequence (mark : Mark) (tag : Option Bytes) (items : List Node)
  | mapping (mark : Mark) (tag : Option Bytes) (entries : List (Node × Node))

def Scalar.empty (tag : Option Bytes) : Scalar := ⟨[], .plain, tag⟩

def Scalar.isEmptyPlain (x : Scalar) : Bool := x.text.isEmpty && x.style == .plain

namespace Node

/-- Where a node begins, with its anchor or tag if it has one. -/
def mark : Node → Mark
  | .broken _ => .origin
  | .alias mark _ => mark
  | .scalar mark _ => mark
  | .sequence mark _ _ => mark
  | .mapping mark _ _ => mark

mutual

/-- The fault at which the text of a node ends, if it is not known to its end. -/
def problem? : Node → Option Problem
  | .broken problem => some problem
  | .alias _ _ => none
  | .scalar _ _ => none
  | .sequence _ _ items => itemsProblem? items
  | .mapping _ _ entries => entriesProblem? entries

def itemsProblem? : List Node → Option Problem
  | [] => none
  | node :: rest => node.problem? <|> itemsProblem? rest

def entriesProblem? : List (Node × Node) → Option Problem
  | [] => none
  | (key, value) :: rest => key.problem? <|> value.problem? <|> entriesProblem? rest

end

end Node

structure Document where
  /-- The root; where a text holds nothing, it is an empty scalar. -/
  root : Node
  anchors : List (Nat × Node)
  size : Nat
  behind : Option Problem

end LoadSeries.Yaml

import LoadSeries.Yaml.Document
import LoadSeries.Yaml.Scalar

/-!
Values of given types from the nodes of a document. Aliases are followed, a limited number of times
in all, and collections of any type are followed to a limited depth.
-/
namespace LoadSeries.Yaml

/-- A decoding, with the number of aliases followed so far. -/
abbrev Decode := StateT Nat (Except Problem)

namespace Decode

def fault {α : Type} (spot : Spot) (fault : Fault) : Decode α := throw (.data spot fault)

def required {α : Type} (spot : Spot) (name : String) : Option α → Decode α
  | some value => pure value
  | none => fault spot (.missingField name)

end Decode

open Decode

def Node.spot (x : Node) (path : Path) : Spot := ⟨path, x.mark⟩

namespace Document

def followsPerPart : Nat := 100

def maxDepth : Nat := 128

def follow (x : Document) (node : Node) : Decode Node :=
  match node with
  | .broken problem => throw problem
  | .alias _ anchor => do
    let count := (← get) + 1
    set count
    if x.size * followsPerPart < count then throw .tooManyFollows
    else
      match x.anchors.lookup anchor with
      | some (.broken problem) => throw problem
      | some target => pure target
      | none => throw .tooManyFollows
  | node => pure node

def wrongType {α : Type} (path : Path) (expected : String) (node : Node) : Decode α :=
  match node with
  | .broken problem => throw problem
  | .alias _ _ => throw .tooManyFollows
  | .sequence _ _ _ => fault (node.spot path) (.invalidType .sequence expected)
  | .mapping _ _ _ => fault (node.spot path) (.invalidType .map expected)
  | .scalar _ value =>
    match value.found with
    | .ok found => fault (node.spot path) (.invalidType found expected)
    | .error e => fault (node.spot path) e

def string (x : Document) (path : Path) (expected : String) (node : Node) : Decode String := do
  match ← x.follow node with
  | .scalar _ value => return String.ofList value.text
  | node => wrongType path expected node

/-- A number of 32 bits with a sign. One of more than 64 bits is not taken for a number at all. -/
def int32 (x : Document) (path : Path) (node : Node) : Decode Int32 := do
  let expected := "i32"
  let node ← x.follow node
  match node with
  | .scalar _ value =>
    match if value.mayBeInteger then Resolve.integerIn? (-0x8000000000000000) 0x7fffffffffffffff value.text
      else none with
    | some n =>
      if -0x80000000 ≤ n ∧ n < 0x80000000 then return Int32.ofInt n
      else fault (node.spot path) (.invalidValue (.integer n) expected)
    | none => wrongType path expected node
  | node => wrongType path expected node

/-- A number without a sign, of so many bits. One of more than 64 is not taken for a number. -/
def natural (x : Document) (bits : Nat) (path : Path) (node : Node) : Decode Nat := do
  let expected := "u" ++ Text.natString bits
  let node ← x.follow node
  match node with
  | .scalar _ value =>
    match if value.mayBeInteger then Resolve.unsigned? value.text else none with
    | some n =>
      if twoTo 64 ≤ n then wrongType path expected node
      else if n < twoTo bits then return n
      else fault (node.spot path) (.invalidValue (.integer n) expected)
    | none => wrongType path expected node
  | node => wrongType path expected node

def uint32 (x : Document) (path : Path) (node : Node) : Decode UInt32 :=
  Nat.toUInt32 <$> x.natural 32 path node

/-- A number that may be absent. The fault of a tag is one of the mapping around it. -/
def optionalUInt64 (x : Document) (parent : Spot) (path : Path) (node : Node) :
    Decode (Option UInt64) := do
  let node ← x.follow node
  let isAbsent ← match node with
    | .scalar _ value =>
      match value.isAbsent with
      | .ok answer => pure answer
      | .error e => fault parent e
    | _ => pure false
  if isAbsent then return none
  else return some (← x.natural 64 path node).toUInt64

def each {α : Type} (decode : Path → Node → Decode α) (path : Path) :
    Nat → List Node → Decode (List α)
  | _, [] => pure []
  | index, node :: rest => do
    let first ← decode (.element path index) node
    let others ← each decode path (index + 1) rest
    return first :: others

/-- A list of strings. An empty plain scalar is an empty list. -/
def strings (x : Document) (path : Path) (node : Node) : Decode (List String) := do
  let node ← x.follow node
  match node with
  | .sequence _ _ items => each (fun path node => x.string path "a string" node) path 0 items
  | .scalar _ value => if value.isEmptyPlain then return [] else wrongType path "a sequence" node
  | node => wrongType path "a sequence" node

def valuePath (path : Path) : Node → Path
  | .scalar _ key => .key path (String.ofList key.text)
  | _ => .unknown path

/-- How a field is added to what is known of the structure at a spot; nothing for a key that names
no field. -/
abbrev Assign (α : Type) := Spot → String → Option (Path → Node → α → Decode α)

/-- Decodes the entries of the structure at a spot in turn. No field may be given twice; other keys
are passed over. -/
def fields {α : Type} (x : Document) (assign : Assign α) (spot : Spot) :
    List String → List (Node × Node) → α → Decode α
  | _, [], known => pure known
  | seen, (key, value) :: rest, known => do
    let name ← x.string spot.path "field identifier" key
    match assign spot name with
    | some decode =>
      if name ∈ seen then fault spot (.duplicateField name)
      else
        let known ← decode (valuePath spot.path key) value known
        fields x assign spot (name :: seen) rest known
    | none =>
      match value.problem? with
      | none => fields x assign spot seen rest known
      | some problem => throw problem

/-- A structure, completed when all its entries are known. An empty plain scalar is one without
entries. -/
def composite {α β : Type} (x : Document) (expected : String) (assign : Assign α) (start : α)
    (complete : Spot → α → Decode β) (path : Path) (node : Node) : Decode β := do
  let node ← x.follow node
  let spot := node.spot path
  match node with
  | .mapping _ _ entries => complete spot (← x.fields assign spot [] entries start)
  | .scalar _ value =>
    if value.isEmptyPlain then complete spot start else wrongType path expected node
  | node => wrongType path expected node

/-- What a node of any type is. All of it must be of types that can be told apart. -/
def any (x : Document) : Nat → Path → Node → Decode Found
  | depth, path, node => do
    let node ← x.follow node
    match node with
    | .broken problem => throw problem
    | .alias _ _ => throw .tooManyFollows
    | .scalar _ value =>
      if Scalar.isLocalTag value.tag then fault (node.spot path) .ownType
      else
        match value.found with
        | .ok (.wideInteger n) => fault (node.spot path) (.invalidType (.wideInteger n) "any value")
        | .ok found => return found
        | .error e => fault (node.spot path) e
    | .sequence mark tag items =>
      if Scalar.isLocalTag tag then fault (node.spot path) .ownType
      else
        match depth with
        | 0 => throw (.tooDeep mark)
        | depth + 1 =>
          let _ ← each (x.any depth) path 0 items
          return .sequence
    | .mapping mark tag entries =>
      if Scalar.isLocalTag tag then fault (node.spot path) .ownType
      else
        match depth with
        | 0 => throw (.tooDeep mark)
        | depth + 1 =>
          entries.forM fun (key, value) => do
            let _ ← x.any depth path key
            let _ ← x.any depth (valuePath path key) value
          return .map

def decode {α : Type} (x : Document) (decoder : Node → Decode α) : Except Problem α :=
  match (decoder x.root).run 0 with
  | .error e => .error e
  | .ok (value, _) =>
    match x.behind with
    | none => .ok value
    | some problem => .error problem

end Document

end LoadSeries.Yaml

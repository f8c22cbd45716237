import LoadSeries.Yaml.Node
import LoadSeries.Yaml.Token.Scanner

/-!
The first document of a sequence of tokens. A fault ends the document: the node where it was found
is broken, and so is all around it, but what stands before it is known.
-/
namespace LoadSeries.Yaml

open Text

abbrev Handles := List (List Char × Bytes)

namespace Handles

def standard : Handles :=
  [(['!'], TagText.mark), (['!', '!'], stringBytes "tag:yaml.org,2002:")]

/-- The full tag of a handle and a suffix. A tag without handle is full already. -/
def resolve? (x : Handles) (handle : List Char) (suffix : Bytes) : Option Bytes :=
  if handle.isEmpty then some suffix else (x.lookup handle).map (· ++ suffix)

end Handles

structure Reading where
  lexemes : List Lexeme
  ending : Problem
  handles : Handles
  /-- Names of anchors with the numbers last given to them, and how many names there are. -/
  names : List (List Char × Nat)
  nameCount : Nat
  places : List (Nat × Nat)
  placed : List (Nat × Node)
  size : Nat
  isBroken : Bool

structure Properties where
  anchor : Option (List Char)
  tag : Option (List Char × Bytes × Mark)

namespace Reading

def ofLexemes (lexemes : List Lexeme) (ending : Problem) (handles : Handles) : Reading :=
  ⟨lexemes, ending, handles, [], 0, [], [], 0, false⟩

def next? (x : Reading) : Option Token := x.lexemes.head?.map (·.token)

def start (x : Reading) : Mark := (x.lexemes.head?.map (·.start)).getD .origin

def stop (x : Reading) : Mark := (x.lexemes.head?.map (·.stop)).getD .origin

def drop (x : Reading) : Reading := { x with lexemes := x.lexemes.drop 1 }

def isNext (x : Reading) (tokens : List Token) : Bool := x.next?.any tokens.contains

def count (x : Reading) : Reading := { x with size := x.size + 1 }

def fail (x : Reading) (problem : Problem) : Node × Reading :=
  (.broken problem, { x with isBroken := true })

def blocked (x : Reading) (activity : Activity) (since : Mark) (obstacle : Obstacle) :
    Node × Reading :=
  if x.lexemes.isEmpty then x.fail x.ending
  else x.fail (.syntactic (.unexpected obstacle x.start (some (activity, since))))

/-- A node that is not written; there must be a token behind it. -/
def emptyNode (x : Reading) (mark : Mark) (tag : Option Bytes) : Node × Reading :=
  if x.lexemes.isEmpty then x.fail x.ending else (.scalar mark (.empty tag), x.count)

/-- Gives an anchor its number. A name that was used before does not add to the count of names, by
which the next number is chosen. -/
def register (x : Reading) (anchor : Option (List Char)) : Reading :=
  match anchor with
  | none => x
  | some name =>
    let isNew := (x.names.lookup name).isNone
    { x with
      names := (name, x.nameCount) :: x.names
      nameCount := if isNew then x.nameCount + 1 else x.nameCount
      places := (x.nameCount, x.places.length) :: x.places }

def settle (x : Reading) (anchor : Option (List Char)) (place : Nat) (node : Node) : Reading :=
  if anchor.isSome then { x with placed := (place, node) :: x.placed } else x

def anchors (x : Reading) : List (Nat × Node) :=
  x.places.filterMap fun (number, place) => (x.placed.lookup place).map (number, ·)

def properties (x : Reading) : Properties × Reading :=
  match x.next? with
  | some (.anchor name) =>
    let rest := x.drop
    match rest.next? with
    | some (.tag handle suffix) => (⟨some name, some (handle, suffix, rest.start)⟩, rest.drop)
    | _ => (⟨some name, none⟩, rest)
  | some (.tag handle suffix) =>
    let tag := some (handle, suffix, x.start)
    let rest := x.drop
    match rest.next? with
    | some (.anchor name) => (⟨some name, tag⟩, rest.drop)
    | _ => (⟨none, tag⟩, rest)
  | _ => (⟨none, none⟩, x)

def fullTag (x : Reading) (start : Mark) (properties : Properties) :
    Except Problem (Option Bytes) :=
  match properties.tag with
  | none => .ok none
  | some (handle, suffix, mark) =>
    match x.handles.resolve? handle suffix with
    | some tag => .ok (some tag)
    | none =>
      .error (.syntactic (.unexpected .unknownHandle mark (some (.properties, start))))

def close (x : Reading) : Reading := x.drop.count

mutual

/-- Reads a node. Blocks may begin only where a block may stand, and a sequence without indentation
only as a key or value of a block. -/
def node (inBlock mayLackIndent : Bool) : Nat → Reading → Node × Reading
  | 0, x => x.fail x.ending
  | fuel + 1, x =>
    match x.next? with
    | none => x.fail x.ending
    | some (.alias name) =>
      match x.names.lookup name with
      | some number => (.alias x.start number, x.drop.count)
      | none => x.fail (.syntactic (.unexpected .unknownAnchor x.start none))
    | some _ =>
      let start := x.start
      let (properties, x) := x.properties
      match x.next?, x.fullTag start properties with
      | none, _ => x.fail x.ending
      | _, .error problem => x.fail problem
      | some token, .ok tag =>
        let anchor := properties.anchor
        let place := x.places.length
        let begin' (x : Reading) : Reading := (x.register anchor).count
        let finish (found : Node × Reading) : Node × Reading :=
          (found.1, found.2.settle anchor place found.1)
        match token with
        | .scalar text style => finish (.scalar start ⟨text, style, tag⟩, begin' x.drop)
        | .flowSequenceStart =>
          let (items, x) := flowItems x.start true fuel (begin' x.drop)
          finish (.sequence start tag items, x)
        | .flowMappingStart =>
          let (entries, x) := flowEntries x.start true fuel (begin' x.drop)
          finish (.mapping start tag entries, x)
        | token =>
          if mayLackIndent && token == .blockEntry then
            let (items, x) := bareItems fuel (begin' x)
            finish (.sequence start tag items, x)
          else if inBlock && token == .blockSequenceStart then
            let (items, x) := blockItems x.start fuel (begin' x.drop)
            finish (.sequence start tag items, x)
          else if inBlock && token == .blockMappingStart then
            let (entries, x) := blockEntries x.start fuel (begin' x.drop)
            finish (.mapping start tag entries, x)
          else if anchor.isSome || tag.isSome then
            finish (.scalar start (.empty tag), begin' x)
          else x.blocked (if inBlock then .blockNode else .flowNode) start .noNode

def blockItems (since : Mark) : Nat → Reading → List Node × Reading
  | 0, x => (x.fail x.ending).map ([·]) id
  | fuel + 1, x =>
    match x.next? with
    | some .blockEntry =>
      let (item, x) :=
        optionalNode true false [.blockEntry, .blockEnd] (some x.stop) fuel x.drop
      if x.isBroken then ([item], x)
      else
        let (items, x) := blockItems since fuel x
        (item :: items, x)
    | some .blockEnd => ([], x.close)
    | _ => (x.blocked .blockSequence since .noHyphen).map ([·]) id

/-- Reads the items of a sequence that is not indented; what follows it ends it. -/
def bareItems : Nat → Reading → List Node × Reading
  | 0, x => (x.fail x.ending).map ([·]) id
  | fuel + 1, x =>
    match x.next? with
    | some .blockEntry =>
      let (item, x) :=
        optionalNode true false [.blockEntry, .key, .value, .blockEnd] (some x.stop) fuel x.drop
      if x.isBroken then ([item], x)
      else
        let (items, x) := bareItems fuel x
        (item :: items, x)
    | some _ => ([], x.count)
    | none => (x.fail x.ending).map ([·]) id

def blockEntries (since : Mark) : Nat → Reading → List (Node × Node) × Reading
  | 0, x => (x.fail x.ending).map (fun node => [(node, node)]) id
  | fuel + 1, x =>
    match x.next? with
    | some .key =>
      let (key, x) :=
        optionalNode true true [.key, .value, .blockEnd] (some x.stop) fuel x.drop
      if x.isBroken then ([(key, key)], x)
      else
        let (value, x) :=
          if x.isNext [.value] then
            optionalNode true true [.key, .value, .blockEnd] (some x.stop) fuel x.drop
          else x.emptyNode x.start none
        if x.isBroken then ([(key, value)], x)
        else
          let (entries, x) := blockEntries since fuel x
          ((key, value) :: entries, x)
    | some .blockEnd => ([], x.close)
    | _ => (x.blocked .blockMapping since .noKey).map (fun node => [(node, node)]) id

/-- Reads a node, which is empty if one of the tokens named comes instead. An empty node stands at
the mark given, or else where that token begins. -/
def optionalNode (inBlock mayLackIndent : Bool) (stops : List Token) (mark : Option Mark) :
    Nat → Reading → Node × Reading
  | 0, x => x.fail x.ending
  | fuel + 1, x =>
    if x.isNext stops then x.emptyNode (mark.getD x.start) none
    else node inBlock mayLackIndent fuel x

/-- Reads the items of a flow sequence that began at `since`, and its end. Between two items stands
a comma. -/
def flowItems (since : Mark) (isFirst : Bool) : Nat → Reading → List Node × Reading
  | 0, x => (x.fail x.ending).map ([·]) id
  | fuel + 1, x =>
    if x.isNext [.flowSequenceEnd] then ([], x.close)
    else if !isFirst && !x.isNext [.flowEntry] then
      (x.blocked .flowSequence since .noCommaOrBracket).map ([·]) id
    else
      let x := if isFirst then x else x.drop
      if x.isNext [.flowSequenceEnd] then ([], x.close)
      else
        let (item, x) :=
          if x.isNext [.key] then flowPair x.start fuel x.drop.count else node false false fuel x
        if x.isBroken then ([item], x)
        else
          let (items, x) := flowItems since false fuel x
          (item :: items, x)

/-- Reads an item that is a mapping of one entry and begins at a mark. A key that is not written
takes the token that stands in its place with it. -/
def flowPair (mark : Mark) : Nat → Reading → Node × Reading
  | 0, x => x.fail x.ending
  | fuel + 1, x =>
    let (key, x) :=
      if x.isNext [.value, .flowEntry, .flowSequenceEnd] then
        (x.emptyNode x.stop none).map id Reading.drop
      else node false false fuel x
    if x.isBroken then (.mapping mark none [(key, key)], x)
    else
      let (value, x) :=
        if x.isNext [.value] then
          optionalNode false false [.flowEntry, .flowSequenceEnd] none fuel x.drop
        else x.emptyNode x.start none
      if x.isBroken then (.mapping mark none [(key, value)], x)
      else if x.lexemes.isEmpty then
        let (node, x) := x.fail x.ending
        (.mapping mark none [(key, value), (node, node)], x)
      else (.mapping mark none [(key, value)], x.count)

def flowEntries (since : Mark) (isFirst : Bool) : Nat → Reading → List (Node × Node) × Reading
  | 0, x => (x.fail x.ending).map (fun node => [(node, node)]) id
  | fuel + 1, x =>
    if x.isNext [.flowMappingEnd] then ([], x.close)
    else if !isFirst && !x.isNext [.flowEntry] then
      (x.blocked .flowMapping since .noCommaOrBrace).map (fun node => [(node, node)]) id
    else
      let x := if isFirst then x else x.drop
      if x.isNext [.flowMappingEnd] then ([], x.close)
      else
        let hasIndicator := x.isNext [.key]
        let (key, x) :=
          if hasIndicator then
            optionalNode false false [.value, .flowEntry, .flowMappingEnd] none fuel x.drop
          else node false false fuel x
        if x.isBroken then ([(key, key)], x)
        else
          let (value, x) :=
            if hasIndicator && x.isNext [.value] then
              optionalNode false false [.flowEntry, .flowMappingEnd] none fuel x.drop
            else x.emptyNode x.start none
          if x.isBroken then ([(key, value)], x)
          else
            let (entries, x) := flowEntries since false fuel x
            ((key, value) :: entries, x)

end

end Reading

namespace Document

/-- Reads the directives before a document: one version at most, and tags by different handles. -/
def directives : List Lexeme → Bool → Handles → Except SyntaxFault (Handles × List Lexeme)
  | [], _, handles => .ok (handles, [])
  | next :: rest, hasVersion, handles =>
    let fail (obstacle : Obstacle) : Except SyntaxFault (Handles × List Lexeme) :=
      .error (.unexpected obstacle next.start none)
    match next.token with
    | .versionDirective major minor =>
      if hasVersion then fail .secondVersion
      else if major ≠ 1 || (minor ≠ 1 && minor ≠ 2) then fail .wrongVersion
      else directives rest true handles
    | .tagDirective handle expansion =>
      if (handles.lookup handle).isSome then fail .secondHandle
      else directives rest hasVersion (handles ++ [(handle, expansion)])
    | _ => .ok (handles, next :: rest)

def broken (problem : Problem) : Document := ⟨.broken problem, [], 0, none⟩

/-- What keeps the text from ending here, where a document has ended. Marks of its end may stand
before that of the text. -/
def behind? (x : Reading) : Option Problem :=
  let tokens := x.lexemes.map (·.token)
  if tokens.isEmpty then some x.ending
  else if tokens.dropWhile (· == .documentEnd) == [.streamEnd] then none
  else some .severalDocuments

def ofReading (found : Node × Reading) : Document :=
  let (root, x) := found
  ⟨root, x.anchors, x.size, if x.isBroken then none else behind? x⟩

def content (lexemes : List Lexeme) (ending : Problem) (handles : Handles) : Document :=
  let x := Reading.ofLexemes lexemes ending handles
  let isEmpty := match x.next? with
    | some (.versionDirective ..) | some (.tagDirective ..) | some .documentStart
    | some .documentEnd | some .streamEnd => true
    | _ => false
  if isEmpty then ofReading (x.emptyNode x.start none)
  else ofReading (x.node true false (4 * lexemes.length + 8))

/-- The first document of a text, by its tokens and what is met behind the last of them. -/
def ofLexemes (lexemes : List Lexeme) (ending : Problem) : Document :=
  match lexemes with
  | [] => broken ending
  | first :: _ =>
    match first.token with
    | .streamEnd => ⟨.scalar first.start (.empty none), [], 1, none⟩
    | .versionDirective .. | .tagDirective .. | .documentStart =>
      match directives lexemes false [] with
      | .error fault => broken (.syntactic fault)
      | .ok (_, []) => broken ending
      | .ok (handles, next :: rest) =>
        if next.token == .documentStart then content rest ending (handles ++ Handles.standard)
        else broken (.syntactic (.unexpected .noDocumentStart next.start none))
    | _ =>
      let x := Reading.ofLexemes lexemes ending Handles.standard
      ofReading (x.node true false (4 * lexemes.length + 8))

def ofText (text : List Char) : Document :=
  let (lexemes, fault) := Lexeme.ofText text
  ofLexemes lexemes (.syntactic (fault.getD (.unreadable 0)))

end Document

end LoadSeries.Yaml

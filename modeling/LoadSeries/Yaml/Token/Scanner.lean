import LoadSeries.Yaml.Token.Block
import LoadSeries.Yaml.Token.Directive
import LoadSeries.Yaml.Token.Plain
import LoadSeries.Yaml.Token.Portion
import LoadSeries.Yaml.Token.Quoted

/-!
The tokens of a text, one after another. Where a token may turn out to be the key of a mapping, it
is held back until that is known, since the tokens that announce a key stand before it.
-/
namespace LoadSeries.Yaml

structure KeyStart where
  token : Nat
  offset : Nat
  mark : Mark
  isRequired : Bool

structure Scanner where
  reader : Reader
  /-- The fault of what stands behind the text that is known, if there is more of it. -/
  cut : Option SyntaxFault
  flowDepth : Nat
  indent : Int
  outerIndents : List Int
  keyStart : Option KeyStart
  outerKeyStarts : List (Option KeyStart)
  keyAllowed : Bool
  held : List Lexeme
  released : Nat
  ended : Bool

namespace Scanner

def maxKeyLength : Nat := 1024

/-- Characters that must be known before a token is begun. -/
def lookahead : Nat := 4

def ofText (text : List Char) (cut : Option SyntaxFault) : Scanner where
  reader := .ofText text
  cut
  flowDepth := 0
  indent := -1
  outerIndents := []
  keyStart := none
  outerKeyStarts := []
  keyAllowed := true
  held := []
  released := 0
  ended := false

def inFlow (s : Scanner) : Bool := 0 < s.flowDepth

def mark (s : Scanner) : Mark := s.reader.mark

def pushEmpty (s : Scanner) (token : Token) : Scanner :=
  { s with held := s.held ++ [⟨token, s.mark, s.mark⟩] }

def pushTo (s : Scanner) (reader : Reader) (token : Token) : Scanner :=
  { s with reader, held := s.held ++ [⟨token, s.mark, reader.mark⟩] }

def insert (s : Scanner) (number : Nat) (mark : Mark) (token : Token) : Scanner :=
  let place := number - s.released
  { s with held := s.held.take place ++ ⟨token, mark, mark⟩ :: s.held.drop place }

/-- Gives up a possible key; one that is required must not be given up. -/
def dropKey (r : Reader) : Option KeyStart → Except SyntaxFault (Option KeyStart)
  | some key => if key.isRequired then r.blocked .simpleKey key.mark .noColon else .ok none
  | none => .ok none

def removeKey (s : Scanner) : Except SyntaxFault Scanner := do
  return { s with keyStart := ← dropKey s.reader s.keyStart }

def noteKey (s : Scanner) : Except SyntaxFault Scanner :=
  if s.keyAllowed then do
    let s ← s.removeKey
    return { s with
      keyStart := some {
        token := s.released + s.held.length
        offset := s.reader.offset
        mark := s.mark
        isRequired := !s.inFlow && s.indent == s.reader.column } }
  else .ok s

/-- Gives up a key that would not end on its line, or not soon enough. -/
def dropStale (r : Reader) : Option KeyStart → Except SyntaxFault (Option KeyStart)
  | some key =>
    if key.mark.line < r.line || key.offset + maxKeyLength < r.offset then dropKey r (some key)
    else .ok (some key)
  | none => .ok none

def removeStale (s : Scanner) : Except SyntaxFault Scanner := do
  return { s with
    outerKeyStarts := ← s.outerKeyStarts.mapM (dropStale s.reader)
    keyStart := ← dropStale s.reader s.keyStart }

def unindent (column : Int) : List Int → Scanner → Scanner
  | [], s => s
  | outer :: rest, s =>
    if column < s.indent then
      unindent column rest { s.pushEmpty .blockEnd with indent := outer, outerIndents := rest }
    else s

def closeBlocks (s : Scanner) (column : Int) : Scanner :=
  if s.inFlow then s else unindent column s.outerIndents s

/-- Opens a block at the column of a place, unless one is open there. The token goes before the one
of a number. -/
def openBlockAt (s : Scanner) (mark : Mark) (token : Token) (number : Nat) : Scanner :=
  if !s.inFlow && s.indent < mark.column then
    { s with indent := mark.column, outerIndents := s.indent :: s.outerIndents }.insert number mark
      token
  else s

def openBlock (s : Scanner) (token : Token) : Scanner :=
  s.openBlockAt s.mark token (s.released + s.held.length)

def indicator (s : Scanner) (width : Nat) (token : Token) : Scanner :=
  s.pushTo (s.reader.skip width) token

def misplaced (s : Scanner) (obstacle : Obstacle) : Except SyntaxFault Scanner :=
  .error (.unexpected obstacle s.mark none)

def skipByteOrderMark (r : Reader) : Reader :=
  if r.column == 0 && r.peek?.any (·.toNat == 0xFEFF) then r.skip 1 else r

/-- Passes over blanks, comments and line breaks. A new line may begin with a key. -/
def skipToToken : Nat → Scanner → Scanner
  | 0, s => s
  | fuel + 1, s =>
    let r := skipByteOrderMark s.reader
    let tabs := s.inFlow || !s.keyAllowed
    let r := (r.takeWhile fun c => c == ' ' || (tabs && c == '\t')).2
    let r := if r.isAt '#' then (r.takeWhile fun _ => true).2 else r
    if r.atBreak then
      skipToToken fuel { s with reader := r.skipBreak, keyAllowed := s.keyAllowed || !s.inFlow }
    else { s with reader := r }

def fetchEnd (s : Scanner) : Except SyntaxFault Scanner := do
  let s ← ({ s with reader := s.reader.nextLine }.closeBlocks (-1)).removeKey
  return { s.pushEmpty .streamEnd with keyAllowed := false, ended := true }

def fetchDirective (s : Scanner) : Except SyntaxFault Scanner := do
  let s ← (s.closeBlocks (-1)).removeKey
  let (token, reader) ← Directive.scan s.reader
  return { s with keyAllowed := false }.pushTo reader token

def fetchDocumentMark (s : Scanner) (token : Token) : Except SyntaxFault Scanner := do
  let s ← (s.closeBlocks (-1)).removeKey
  return { s with keyAllowed := false }.indicator 3 token

def fetchFlowStart (s : Scanner) (token : Token) : Except SyntaxFault Scanner := do
  let s ← s.noteKey
  return { s with
    flowDepth := s.flowDepth + 1
    outerKeyStarts := s.keyStart :: s.outerKeyStarts
    keyStart := none
    keyAllowed := true }.indicator 1 token

def fetchFlowEnd (s : Scanner) (token : Token) : Except SyntaxFault Scanner := do
  let s ← s.removeKey
  let s := match s.outerKeyStarts with
    | key :: rest =>
      { s with flowDepth := s.flowDepth - 1, keyStart := key, outerKeyStarts := rest }
    | [] => s
  return { s with keyAllowed := false }.indicator 1 token

def fetchFlowEntry (s : Scanner) : Except SyntaxFault Scanner := do
  let s ← s.removeKey
  return { s with keyAllowed := true }.indicator 1 .flowEntry

def fetchBlockEntry (s : Scanner) : Except SyntaxFault Scanner :=
  if !s.inFlow && !s.keyAllowed then s.misplaced .misplacedEntry
  else do
    let s ← (s.openBlock .blockSequenceStart).removeKey
    return { s with keyAllowed := true }.indicator 1 .blockEntry

def fetchKey (s : Scanner) : Except SyntaxFault Scanner :=
  if !s.inFlow && !s.keyAllowed then s.misplaced .misplacedKey
  else do
    let s ← (s.openBlock .blockMappingStart).removeKey
    return { s with keyAllowed := !s.inFlow }.indicator 1 .key

def fetchValue (s : Scanner) : Except SyntaxFault Scanner :=
  match s.keyStart with
  | some key =>
    let s := (s.insert key.token key.mark .key).openBlockAt key.mark .blockMappingStart key.token
    .ok ({ s with keyStart := none, keyAllowed := false }.indicator 1 .value)
  | none =>
    if !s.inFlow && !s.keyAllowed then s.misplaced .misplacedValue
    else
      let s := s.openBlock .blockMappingStart
      .ok ({ s with keyAllowed := !s.inFlow }.indicator 1 .value)

def fetchName (s : Scanner) (activity : Activity) (token : List Char → Token) :
    Except SyntaxFault Scanner := do
  let s ← s.noteKey
  let (name, reader) ← Name.scan activity s.reader
  return { s with keyAllowed := false }.pushTo reader (token name)

def fetchTag (s : Scanner) : Except SyntaxFault Scanner := do
  let s ← s.noteKey
  let (handle, suffix, reader) ← TagText.scan s.inFlow s.reader
  return { s with keyAllowed := false }.pushTo reader (.tag handle suffix)

def fetchBlockScalar (s : Scanner) (style : Style) : Except SyntaxFault Scanner := do
  let s ← s.removeKey
  let (text, reader) ← BlockScalar.scan (style == .folded) s.indent s.reader
  return { s with keyAllowed := true }.pushTo reader (.scalar text style)

def fetchQuoted (s : Scanner) (quote : Char) (style : Style) : Except SyntaxFault Scanner := do
  let s ← s.noteKey
  let (text, reader) ← QuotedScalar.scan quote s.reader
  return { s with keyAllowed := false }.pushTo reader (.scalar text style)

def fetchPlain (s : Scanner) : Except SyntaxFault Scanner := do
  let s ← s.noteKey
  let found ← Plain.scan s.inFlow (s.indent + 1) s.reader
  return { s with keyAllowed := found.endsLine }.pushTo found.reader (.scalar found.text .plain)

def fetchFrom (s : Scanner) (c : Char) : Except SyntaxFault Scanner :=
  let r := s.reader
  if r.column == 0 && c == '%' then s.fetchDirective
  else if r.atDocumentMark then
    s.fetchDocumentMark (if c == '-' then .documentStart else .documentEnd)
  else if c == '[' then s.fetchFlowStart .flowSequenceStart
  else if c == '{' then s.fetchFlowStart .flowMappingStart
  else if c == ']' then s.fetchFlowEnd .flowSequenceEnd
  else if c == '}' then s.fetchFlowEnd .flowMappingEnd
  else if c == ',' then s.fetchFlowEntry
  else if c == '-' && r.isGapAhead 1 then s.fetchBlockEntry
  else if c == '?' && (s.inFlow || r.isGapAhead 1) then s.fetchKey
  else if c == ':' && (s.inFlow || r.isGapAhead 1) then s.fetchValue
  else if c == '*' then s.fetchName .alias .alias
  else if c == '&' then s.fetchName .anchor .anchor
  else if c == '!' then s.fetchTag
  else if c == '|' && !s.inFlow then s.fetchBlockScalar .literal
  else if c == '>' && !s.inFlow then s.fetchBlockScalar .folded
  else if c == '\'' then s.fetchQuoted c .singleQuoted
  else if c == '"' then s.fetchQuoted c .doubleQuoted
  else if Plain.startsHere s.inFlow r then s.fetchPlain
  else r.blocked .nextToken r.mark .noToken

def demand (s : Scanner) (count : Nat) : Except SyntaxFault Unit :=
  match s.cut with
  | some fault => if s.reader.rest.length < count then .error fault else .ok ()
  | none => .ok ()

/-- What a fault turns out to be. One at the end of the text that is known comes of what stands
behind it. -/
def judge (s : Scanner) (fault : SyntaxFault) : SyntaxFault :=
  match s.cut, fault with
  | some cut, .unexpected _ place _ => if place = s.reader.toEnd.mark then cut else fault
  | _, _ => fault

def fetch (s : Scanner) : Except SyntaxFault Scanner := do
  let s := skipToToken s.reader.bound s
  s.demand 1
  let s ← s.removeStale
  let s := s.closeBlocks s.reader.column
  s.demand lookahead
  let next ← match s.reader.peek? with
    | none => s.fetchEnd
    | some c => (s.fetchFrom c).mapError s.judge
  next.demand 1
  return next

def holdsKey (s : Scanner) : Bool :=
  let begins (key : Option KeyStart) : Bool := key.any (·.token == s.released)
  begins s.keyStart || s.outerKeyStarts.any begins

/-- The tokens of the text in order, up to the end or to the first fault, and the fault. -/
def lexemes : Nat → Scanner → List Lexeme × Option SyntaxFault
  | 0, _ => ([], none)
  | fuel + 1, s =>
    match s.held with
    | [] =>
      if s.ended then ([], none)
      else
        match s.fetch with
        | .ok next => lexemes fuel next
        | .error fault => ([], some fault)
    | first :: rest =>
      match s.removeStale with
      | .error fault => ([], some fault)
      | .ok s =>
        if s.holdsKey then
          match s.fetch with
          | .ok next => lexemes fuel next
          | .error fault => ([], some fault)
        else
          (lexemes fuel { s with held := rest, released := s.released + 1 }).map (first :: ·) id

end Scanner

/-- The tokens of a text, and the fault at which they end. The last is `streamEnd` if there is no
fault. -/
def Lexeme.ofText (text : List Char) : List Lexeme × Option SyntaxFault :=
  let (known, cut) := Portion.known text
  (Scanner.ofText known cut).lexemes (6 * text.length + 8)

end LoadSeries.Yaml

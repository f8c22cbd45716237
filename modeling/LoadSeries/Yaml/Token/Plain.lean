import LoadSeries.Yaml.Token.Gap

/-! Plain scalars: words without quotes, on one line or several. -/
namespace LoadSeries.Yaml.Plain

def isFlowIndicator (c : Char) : Bool :=
  c == ',' || c == '[' || c == ']' || c == '{' || c == '}'

def startsHere (inFlow : Bool) (r : Reader) : Bool :=
  match r.peek? with
  | none => false
  | some c =>
    !(isSpaceOrTab c || isBreak c || "-?:,[]\x7b\x7d#&*!|>'\"%@`".toList.contains c) ||
      (c == '-' && !(r.ahead? 1).any isSpaceOrTab) ||
      (!inFlow && (c == '?' || c == ':') && !r.isGapAhead 1)

/-- Whether a colon here may not stand in flow style. -/
def isStrayColon (r : Reader) : Bool :=
  r.isAt ':' && (r.ahead? 1).any fun c => c == '?' || isFlowIndicator c

def endsWord (inFlow : Bool) (r : Reader) : Bool :=
  match r.peek? with
  | none => true
  | some c =>
    isSpaceOrTab c || isBreak c || (c == ':' && r.isGapAhead 1) || (inFlow && isFlowIndicator c)

def word (inFlow : Bool) (start : Mark) :
    Nat → Reader → Except SyntaxFault (List Char × Reader)
  | 0, r => .ok ([], r)
  | fuel + 1, r =>
    match r.peek? with
    | none => .ok ([], r)
    | some c =>
      if isSpaceOrTab c || isBreak c then .ok ([], r)
      else if inFlow && isStrayColon r then r.blocked .plainScalar start .strayColon
      else if endsWord inFlow r then .ok ([], r)
      else (word inFlow start fuel (r.skip 1)).map fun (body, rest) => (c :: body, rest)

structure Found where
  text : List Char
  endsLine : Bool
  reader : Reader

/-- Reads words, each behind the gap before it; `pieces` are those read so far, the last first. -/
def words (inFlow : Bool) (indent : Int) (start : Mark) :
    Nat → List (List Char) → Gap → Reader → Except SyntaxFault Found
  | 0, pieces, gap, r => .ok ⟨pieces.reverse.flatten, gap.hasBreak, r⟩
  | fuel + 1, pieces, gap, r =>
    let finish (pieces : List (List Char)) (gap : Gap) (r : Reader) : Except SyntaxFault Found :=
      .ok ⟨pieces.reverse.flatten, gap.hasBreak, r⟩
    if r.atDocumentMark || r.isAt '#' then finish pieces gap r
    else do
      let (body, r) ← word inFlow start r.bound r
      let (pieces, gap) : List (List Char) × Gap :=
        if body.isEmpty then (pieces, gap) else (body :: gap.folded :: pieces, .empty)
      if !(r.atSpaceOrTab || r.atBreak) then finish pieces gap r
      else
        match Gap.tab? indent r.bound gap.hasBreak r with
        | some tab => tab.blocked .plainScalar start .tabBeforeIndentation
        | none =>
          let (gap, r) := gap.read r.bound r
          if !inFlow && (r.column : Int) < indent then finish pieces gap r
          else words inFlow indent start fuel pieces gap r

def scan (inFlow : Bool) (indent : Int) (r : Reader) : Except SyntaxFault Found :=
  words inFlow indent r.mark r.bound [] .empty r

end LoadSeries.Yaml.Plain

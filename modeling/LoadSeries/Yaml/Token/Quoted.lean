import LoadSeries.Yaml.Token.Gap

/-! Scalars between single or double quotes. -/
namespace LoadSeries.Yaml.QuotedScalar

def hexValue? (c : Char) : Option Nat :=
  if '0' ≤ c && c ≤ '9' then some (c.toNat - 48)
  else if 'a' ≤ c && c ≤ 'f' then some (c.toNat - 87)
  else if 'A' ≤ c && c ≤ 'F' then some (c.toNat - 55)
  else none

def hexNumber? (digits : List Char) : Option Nat :=
  digits.foldlM (fun n c => (hexValue? c).map (16 * n + ·)) 0

def scalarValue? (n : Nat) : Option Char :=
  if n.isValidChar then some (Char.ofNat n) else none

def simpleEscape? (c : Char) : Option Char :=
  match c with
  | '0' => some '\x00'
  | 'a' => some '\x07'
  | 'b' => some '\x08'
  | 't' | '\t' => some '\t'
  | 'n' => some '\n'
  | 'v' => some '\x0b'
  | 'f' => some '\x0c'
  | 'r' => some '\r'
  | 'e' => some '\x1b'
  | ' ' => some ' '
  | '"' => some '"'
  | '/' => some '/'
  | '\\' => some '\\'
  | 'N' => some '\u0085'
  | '_' => some '\u00a0'
  | 'L' => some '\u2028'
  | 'P' => some '\u2029'
  | _ => none

def codeLength? (c : Char) : Option Nat :=
  match c with
  | 'x' => some 2
  | 'u' => some 4
  | 'U' => some 8
  | _ => none

def codePoint (start : Mark) (length : Nat) (r : Reader) : Except SyntaxFault (Char × Reader) :=
  let digits := r.rest.take length
  match if digits.length = length then hexNumber? digits else none with
  | none => r.blocked .escape start .noHexDigit
  | some n =>
    match scalarValue? n with
    | some c => .ok (c, r.skip length)
    | none => r.blocked .escape start .wrongCodePoint

def escape (start : Mark) (r : Reader) : Except SyntaxFault (Char × Reader) :=
  match (r.ahead? 1).bind codeLength?, (r.ahead? 1).bind simpleEscape? with
  | some length, _ => codePoint start length (r.skip 2)
  | none, some c => .ok (c, r.skip 2)
  | none, none => r.blocked .escape start .unknownEscape

/-- The characters up to a gap or the closing quote, and whether an escaped line break ends them. -/
def word (quote : Char) (start : Mark) :
    Nat → Reader → Except SyntaxFault (List Char × Bool × Reader)
  | 0, r => .ok ([], false, r)
  | fuel + 1, r =>
    let more (c : Char) (rest : Reader) : Except SyntaxFault (List Char × Bool × Reader) :=
      (word quote start fuel rest).map fun (body, found) => (c :: body, found)
    match r.peek? with
    | none => .ok ([], false, r)
    | some c =>
      if isSpaceOrTab c || isBreak c then .ok ([], false, r)
      else if quote == '\'' && c == '\'' && r.ahead? 1 == some '\'' then more '\'' (r.skip 2)
      else if c == quote then .ok ([], false, r)
      else if quote == '"' && c == '\\' then
        if (r.ahead? 1).any isBreak then .ok ([], true, (r.skip 1).skipBreak)
        else
          match escape start r with
          | .ok (d, rest) => more d rest
          | .error fault => .error fault
      else more c (r.skip 1)

/-- Reads words up to the closing quote; `pieces` are those read so far, the last first. -/
def words (quote : Char) (start : Mark) :
    Nat → List (List Char) → Reader → Except SyntaxFault (List Char × Reader)
  | 0, pieces, r => .ok (pieces.reverse.flatten, r)
  | fuel + 1, pieces, r =>
    if r.atDocumentMark then r.blocked .quotedScalar start .documentMark
    else if r.atEnd then r.blocked .quotedScalar start .endOfText
    else do
      let (body, escaped, r) ← word quote start r.bound r
      if r.isAt quote then return ((body :: pieces).reverse.flatten, r.skip 1)
      else
        let gap := if escaped then Gap.escaped else Gap.empty
        let (gap, r) := gap.read r.bound r
        words quote start fuel (gap.folded :: body :: pieces) r

def scan (quote : Char) (r : Reader) : Except SyntaxFault (List Char × Reader) :=
  words quote r.mark r.bound [] (r.skip 1)

end LoadSeries.Yaml.QuotedScalar

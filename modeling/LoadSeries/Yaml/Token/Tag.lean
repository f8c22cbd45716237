import LoadSeries.Text.Utf8
import LoadSeries.Yaml.Reader
import LoadSeries.Yaml.Token.Quoted

/-! Names of anchors, and tags: a handle that is short for a beginning, and the rest. -/
namespace LoadSeries.Yaml

open Text

namespace Name

def endsHere (r : Reader) : Bool :=
  r.isGapAhead 0 || r.peek?.any fun c =>
    c == '?' || c == ':' || c == ',' || c == ']' || c == '}' || c == '%' || c == '@' ||
      c.toNat == 96

def scan (activity : Activity) (r : Reader) : Except SyntaxFault (List Char × Reader) :=
  let (name, rest) := (r.skip 1).takeWhile isNameChar
  if name.isEmpty || !endsHere rest then rest.blocked activity r.mark .noName else .ok (name, rest)

end Name

namespace TagText

/-- Whether a tag may hold the character; between angle brackets it may hold a few more. -/
def isUriChar (verbatim : Bool) (c : Char) : Bool :=
  isNameChar c || ";/?:@&=+$.%!~*'()".toList.contains c ||
    (verbatim && (c == ',' || c == '[' || c == ']'))

def octetCount? (first : Nat) : Option Nat :=
  if first < 0x80 then some 1
  else if first / 32 = 6 then some 2
  else if first / 16 = 14 then some 3
  else if first / 8 = 30 then some 4
  else none

def octet? (r : Reader) : Option (Nat × Reader) :=
  match r.rest with
  | '%' :: a :: b :: _ => do
    let high ← QuotedScalar.hexValue? a
    let low ← QuotedScalar.hexValue? b
    return (16 * high + low, r.skip 3)
  | _ => none

def octets (activity : Activity) (start : Mark) :
    Nat → Reader → Except SyntaxFault (Bytes × Reader)
  | 0, r => .ok ([], r)
  | n + 1, r =>
    match octet? r with
    | none => r.blocked activity start .noOctet
    | some (value, next) =>
      if value / 64 = 2 then
        (octets activity start n next).map fun (rest, r) => (value.toUInt8 :: rest, r)
      else r.blocked activity start .wrongTrailingOctet

def escaped (activity : Activity) (start : Mark) (r : Reader) :
    Except SyntaxFault (Bytes × Reader) :=
  match octet? r with
  | none => r.blocked activity start .noOctet
  | some (first, next) =>
    match octetCount? first with
    | none => r.blocked activity start .wrongLeadingOctet
    | some count =>
      (octets activity start (count - 1) next).map fun (rest, r) => (first.toUInt8 :: rest, r)

def uri (activity : Activity) (start : Mark) (verbatim : Bool) :
    Nat → Reader → Except SyntaxFault (Bytes × Reader)
  | 0, r => .ok ([], r)
  | fuel + 1, r =>
    match r.peek? with
    | none => .ok ([], r)
    | some c =>
      if !isUriChar verbatim c then .ok ([], r)
      else if c == '%' then
        match escaped activity start r with
        | .ok (first, r) =>
          (uri activity start verbatim fuel r).map fun (rest, r) => (first ++ rest, r)
        | .error fault => .error fault
      else
        (uri activity start verbatim fuel (r.skip 1)).map fun (rest, r) => (utf8 [c] ++ rest, r)

def beforeZero (octets : Bytes) : Bytes := octets.takeWhile (· != 0)

/-- Reads a tag's characters, of which there must be one. -/
def uriBody (activity : Activity) (start : Mark) (verbatim : Bool) (r : Reader) :
    Except SyntaxFault (Bytes × Reader) := do
  let (body, r) ← uri activity start verbatim r.bound r
  if body.isEmpty then r.blocked activity start .noTagBody else return (beforeZero body, r)

def mark : Bytes := utf8 ['!']

/-- Reads what may be a handle: an exclamation mark, a name, and another mark if there is one. -/
def handle (activity : Activity) (start : Mark) (r : Reader) :
    Except SyntaxFault (List Char × Reader) :=
  if r.isAt '!' then
    let (name, r) := (r.skip 1).takeWhile isNameChar
    if r.isAt '!' then .ok ('!' :: name ++ ['!'], r.skip 1) else .ok ('!' :: name, r)
  else r.blocked activity start .noMark

def isHandle (text : List Char) : Bool :=
  1 < text.length && text.head? == some '!' && text.getLast? == some '!'

def verbatim (start : Mark) (r : Reader) : Except SyntaxFault (List Char × Bytes × Reader) := do
  let (body, r) ← uriBody .tagBody start true (r.skip 2)
  if r.isAt '>' then return ([], body, r.skip 1) else r.blocked .tag start .noAngleBracket

/-- Reads a tag of a handle and a suffix. A single mark is a tag of its own. -/
def short (start : Mark) (r : Reader) : Except SyntaxFault (List Char × Bytes × Reader) := do
  let (found, r) ← handle .tag start r
  if isHandle found then
    let (suffix, r) ← uriBody .tagBody start false r
    return (found, suffix, r)
  else
    let (more, r) ← uri .tagBody start false r.bound r
    let suffix := beforeZero (utf8 (found.drop 1) ++ more)
    if suffix.isEmpty then return ([], mark, r) else return (['!'], suffix, r)

/-- Reads a tag, which ends with a blank, with the line, or before a comma in flow style. -/
def scan (inFlow : Bool) (r : Reader) : Except SyntaxFault (List Char × Bytes × Reader) := do
  let start := r.mark
  let (found, suffix, r) ← if r.ahead? 1 == some '<' then verbatim start r else short start r
  if r.isGapAhead 0 || (inFlow && r.isAt ',') then return (found, suffix, r)
  else r.blocked .tag start .noGap

end TagText

end LoadSeries.Yaml

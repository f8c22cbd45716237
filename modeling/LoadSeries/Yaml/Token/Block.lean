import LoadSeries.Yaml.Reader

/-! Block scalars: lines of one indentation behind a header, kept as they are or folded. -/
namespace LoadSeries.Yaml.BlockScalar

inductive Chomping where
  | strip
  | clip
  | keep
deriving DecidableEq

def chomping? (c : Char) : Option Chomping :=
  if c == '+' then some .keep else if c == '-' then some .strip else none

def increment? (c : Char) : Option Nat :=
  if '0' ≤ c && c ≤ '9' then some (c.toNat - 48) else none

def readChomping (r : Reader) : Option Chomping × Reader :=
  match r.peek?.bind chomping? with
  | some chomping => (some chomping, r.skip 1)
  | none => (none, r)

def readIncrement (start : Mark) (r : Reader) : Except SyntaxFault (Option Nat × Reader) :=
  match r.peek?.bind increment? with
  | some 0 => r.blocked .blockScalar start .zeroIndentation
  | some n => .ok (some n, r.skip 1)
  | none => .ok (none, r)

/-- Reads a header: chomping and indentation in either order, both of which may be missing. An
indentation of zero is none. -/
def header (start : Mark) (r : Reader) : Except SyntaxFault (Chomping × Nat × Reader) := do
  let (chomping, r) := readChomping r
  let (increment, r) ← readIncrement start r
  let (chomping, r) :=
    match chomping, increment with
    | none, some _ => readChomping r
    | _, _ => (chomping, r)
  return (chomping.getD .clip, increment.getD 0, ← r.skipLineEnd .blockScalar start)

def skipIndent (indent : Nat) (r : Reader) : Reader :=
  let spaces := (r.rest.takeWhile (· == ' ')).length
  r.skip (if indent = 0 then spaces else min spaces (indent - r.column))

/-- Reads empty lines, whose breaks are kept, and the indentation of the line behind them. Gives the
greatest indentation seen. A tab may not stand within an indentation. -/
def breaks (start : Mark) (indent : Nat) :
    Nat → List Char → Nat → Reader → Except SyntaxFault (List Char × Nat × Reader)
  | 0, found, most, r => .ok (found, most, r)
  | fuel + 1, found, most, r =>
    let r := skipIndent indent r
    let most := max most r.column
    if (indent = 0 || r.column < indent) && r.isAt '\t' then
      r.blocked .blockScalar start .tabInIndentation
    else if r.atBreak then breaks start indent fuel (found ++ r.breakText) most r.skipBreak
    else .ok (found, most, r)

structure Lines where
  pieces : List (List Char)
  lastBreak : List Char
  moreBreaks : List Char
  indented : Bool

/-- The breaks before a line. Two lines that do not begin with blanks are folded into one. -/
def joint (folds : Bool) (x : Lines) (indented : Bool) : List Char :=
  if folds && x.lastBreak == ['\n'] && !x.indented && !indented then
    if x.moreBreaks.isEmpty then [' '] else x.moreBreaks
  else x.lastBreak ++ x.moreBreaks

def lines (start : Mark) (folds : Bool) (indent : Nat) :
    Nat → Lines → Reader → Except SyntaxFault (Lines × Reader)
  | 0, x, r => .ok (x, r)
  | fuel + 1, x, r =>
    if r.column == indent && !r.atEnd then do
      let indented := r.atSpaceOrTab
      let (body, ended) := r.takeWhile fun _ => true
      let (more, _, next) ← breaks start indent ended.bound [] 0 ended.skipBreak
      lines start folds indent fuel
        ⟨body :: joint folds x indented :: x.pieces, ended.breakText, more, indented⟩ next
    else return (x, r)

def tail (chomping : Chomping) (x : Lines) : List Char :=
  match chomping with
  | .strip => []
  | .clip => x.lastBreak
  | .keep => x.lastBreak ++ x.moreBreaks

/-- Reads a block scalar from its indicator on, inside a block of the indentation `outer`. -/
def scan (folds : Bool) (outer : Int) (r : Reader) : Except SyntaxFault (List Char × Reader) := do
  let start := r.mark
  let (chomping, increment, r) ← header start (r.skip 1)
  let known : Nat := if increment = 0 then 0 else (max outer 0).toNat + increment
  let (first, most, r) ← breaks start known r.bound [] 0 r
  let indent := if known = 0 then max most (max (outer + 1).toNat 1) else known
  let (x, r) ← lines start folds indent r.bound ⟨[], [], first, false⟩ r
  return ((tail chomping x :: x.pieces).reverse.flatten, r)

end LoadSeries.Yaml.BlockScalar

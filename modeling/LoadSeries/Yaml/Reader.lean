import LoadSeries.Yaml.SyntaxFault

/-!
A place in a YAML text: what is left of the text, and how many bytes, lines, and characters of the
present line lie before it.
-/
namespace LoadSeries.Yaml

def isPrintable (c : Char) : Bool :=
  let n := c.toNat
  n == 9 || n == 10 || n == 13 || (0x20 ≤ n && n ≤ 0x7E) || n == 0x85 ||
    (0xA0 ≤ n && n ≤ 0xD7FF) || (0xE000 ≤ n && n ≤ 0xFFFD) || 0x10000 ≤ n

def isBreak (c : Char) : Bool :=
  let n := c.toNat
  n == 10 || n == 13 || n == 0x85 || n == 0x2028 || n == 0x2029

def isSpaceOrTab (c : Char) : Bool := c == ' ' || c == '\t'

def isNameChar (c : Char) : Bool := c.isAlphanum || c == '-' || c == '_'

structure Reader where
  rest : List Char
  offset : Nat
  line : Nat
  column : Nat
  /-- More than the number of characters of the whole text, and so of the steps of any scan. -/
  bound : Nat
deriving Repr

namespace Reader

def ofText (text : List Char) : Reader := ⟨text, 0, 0, 0, text.length + 1⟩

def mark (r : Reader) : Mark := ⟨r.line, r.column⟩

def blocked {α : Type} (r : Reader) (activity : Activity) (start : Mark) (obstacle : Obstacle) :
    Except SyntaxFault α :=
  .error (.unexpected obstacle r.mark (some (activity, start)))

def peek? (r : Reader) : Option Char := r.rest.head?

def ahead? (r : Reader) (n : Nat) : Option Char := r.rest[n]?

def isAt (r : Reader) (c : Char) : Bool := r.peek? == some c

/-- Whether the character so many places ahead is a blank or a line break, or the text has ended. -/
def isGapAhead (r : Reader) (n : Nat) : Bool :=
  match r.ahead? n with
  | some c => isSpaceOrTab c || isBreak c
  | none => true

def atEnd (r : Reader) : Bool := r.rest.isEmpty

def atSpaceOrTab (r : Reader) : Bool := r.peek?.any isSpaceOrTab

def atBreak (r : Reader) : Bool := r.peek?.any isBreak

def atLineEnd (r : Reader) : Bool := r.atEnd || r.atBreak

def byteCount (text : List Char) : Nat := text.foldl (fun n c => n + c.utf8Size) 0

def skip (r : Reader) (n : Nat) : Reader :=
  ⟨r.rest.drop n, r.offset + byteCount (r.rest.take n), r.line, r.column + n, r.bound⟩

/-- The beginning of the next line; a line that has no characters before this place is not ended. -/
def nextLine (r : Reader) : Reader :=
  if r.column = 0 then r else { r with line := r.line + 1, column := 0 }

def skipBreak (r : Reader) : Reader :=
  match r.rest with
  | '\r' :: '\n' :: rest => ⟨rest, r.offset + 2, r.line + 1, 0, r.bound⟩
  | c :: rest => if isBreak c then ⟨rest, r.offset + c.utf8Size, r.line + 1, 0, r.bound⟩ else r
  | [] => r

def toEnd (r : Reader) : Reader :=
  r.rest.foldl
    (fun (r : Reader) _ => if r.atEnd then r else if r.atBreak then r.skipBreak else r.skip 1) r

/-- The line break here as text: the separators of lines and paragraphs stay, all others are line
feeds. -/
def breakText (r : Reader) : List Char :=
  match r.rest with
  | c :: _ =>
    if c.toNat == 0x2028 || c.toNat == 0x2029 then [c] else if isBreak c then ['\n'] else []
  | [] => []

/-- The characters of the present line that satisfy a test, up to the first that does not. -/
def takeWhile (r : Reader) (test : Char → Bool) : List Char × Reader :=
  let body := r.rest.takeWhile fun c => test c && !isBreak c
  (body, r.skip body.length)

def skipBlanks (r : Reader) : Reader := (r.takeWhile isSpaceOrTab).2

/-- Passes over blanks, a comment and the end of the line; nothing else may stand there. -/
def skipLineEnd (r : Reader) (activity : Activity) (start : Mark) : Except SyntaxFault Reader :=
  let r := r.skipBlanks
  let r := if r.isAt '#' then (r.takeWhile fun _ => true).2 else r
  if r.atLineEnd then .ok r.skipBreak else r.blocked activity start .noLineEnd

def atDocumentMark (r : Reader) : Bool :=
  r.column == 0 && (r.rest.take 3 == ['-', '-', '-'] || r.rest.take 3 == ['.', '.', '.']) &&
    r.isGapAhead 3

end Reader

end LoadSeries.Yaml

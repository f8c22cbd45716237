import LoadSeries.Binary64.Reading
import LoadSeries.Yaml.Node
import LoadSeries.Yaml.Problem
import LoadSeries.Yaml.Token.Tag

/-!
What a scalar denotes. A plain one is a null, a truth value, a number or, failing these, a string; a
tag of the core schema asks for one of them.
-/
namespace LoadSeries.Yaml

open Text

namespace Resolve

def isNull (text : List Char) : Bool :=
  ["null", "Null", "NULL", "~"].any (·.toList == text)

def boolean? (text : List Char) : Option Bool :=
  if ["true", "True", "TRUE"].any (·.toList == text) then some true
  else if ["false", "False", "FALSE"].any (·.toList == text) then some false
  else none

def digitOf? (radix : Nat) (c : Char) : Option Nat :=
  let value : Option Nat :=
    if '0' ≤ c && c ≤ '9' then some (c.toNat - 48)
    else if 'a' ≤ c && c ≤ 'f' then some (c.toNat - 87)
    else if 'A' ≤ c && c ≤ 'F' then some (c.toNat - 55)
    else none
  value.filter (· < radix)

/-- The number that digits of a radix denote, of which there must be one. -/
def magnitude? (radix : Nat) (text : List Char) : Option Nat :=
  if text.isEmpty then none
  else text.foldlM (fun n c => (digitOf? radix c).map (radix * n + ·)) 0

def marked? : List Char → Option Nat
  | '0' :: 'x' :: rest => magnitude? 16 rest
  | '0' :: 'o' :: rest => magnitude? 8 rest
  | '0' :: 'b' :: rest => magnitude? 2 rest
  | _ => none

def dropSign : List Char → List Char
  | '+' :: rest => rest
  | '-' :: rest => rest
  | text => text

def dropPlus : List Char → List Char
  | '+' :: rest => rest
  | text => text

/-- Whether a text is of digits alone, but begins with a zero that a number would not have. -/
def isPaddedDigits (text : List Char) : Bool :=
  match dropSign text with
  | '0' :: rest => !rest.isEmpty && rest.all isDigit
  | _ => false

def unsigned? (text : List Char) : Option Nat :=
  match marked? (dropPlus text) with
  | some n => some n
  | none => if isPaddedDigits text then none else magnitude? 10 (dropPlus text)

def negative? (text : List Char) : Option Int :=
  match text with
  | '-' :: rest =>
    match marked? rest with
    | some n => some (-(n : Int))
    | none => if isPaddedDigits text then none else (magnitude? 10 rest).map fun n => -(n : Int)
  | _ => none

def integer? (text : List Char) : Option Int :=
  match unsigned? text with
  | some n => some n
  | none => negative? text

def integerIn? (least greatest : Int) (text : List Char) : Option Int :=
  (integer? text).filter fun n => least ≤ n ∧ n ≤ greatest

/-- An integer of at most 64 bits, or of at most 128. -/
def anyInteger? (text : List Char) : Option Found :=
  match integer? text with
  | none => none
  | some n =>
    if -(twoTo 63 : Int) ≤ n ∧ n < twoTo 64 then some (.integer n)
    else if -(twoTo 127 : Int) ≤ n ∧ n < twoTo 128 then some (.wideInteger n)
    else none

def float? (text : List Char) : Option Binary64 :=
  let body := dropPlus text
  if [".inf", ".Inf", ".INF"].any (·.toList == body) then some ⟨0x7FF0000000000000⟩
  else if ["-.inf", "-.Inf", "-.INF"].any (·.toList == text) then some ⟨0xFFF0000000000000⟩
  else if [".nan", ".NaN", ".NAN"].any (·.toList == text) then some ⟨0x7FF8000000000000⟩
  else if body.length < text.length && body.head?.any (fun c => c == '+' || c == '-') then none
  else Binary64.ofText? body

def plain (text : List Char) : Found :=
  if text.isEmpty || isNull text then .unit
  else
    match boolean? text with
    | some value => .boolean value
    | none =>
      match anyInteger? text with
      | some found => found
      | none =>
        match if isPaddedDigits text then none else float? text with
        | some value => .float value
        | none => .string (String.ofList text)

end Resolve

namespace Scalar

def coreTag (name : String) : Bytes := stringBytes ("tag:yaml.org,2002:" ++ name)

def hasTag (x : Scalar) (name : String) : Bool := x.tag == some (coreTag name)

/-- Whether a tag begins with an exclamation mark, as those of a document's own types do. -/
def hasMark (tag : Option Bytes) : Bool := tag.any (·.head? == TagText.mark.head?)

/-- Whether a tag names one of a document's own types, which it does if it is text. -/
def isLocalTag (tag : Option Bytes) : Bool :=
  hasMark tag && tag.any fun octets => (strictText? octets).isSome

def found (x : Scalar) : Except Fault Found :=
  let mismatch (expected : String) : Except Fault Found :=
    .error (.invalidValue (.string (String.ofList x.text)) expected)
  if x.hasTag "bool" then
    match Resolve.boolean? x.text with
    | some value => .ok (.boolean value)
    | none => mismatch "a boolean"
  else if x.hasTag "int" then
    match Resolve.anyInteger? x.text with
    | some found => .ok found
    | none => mismatch "an integer"
  else if x.hasTag "float" then
    match Resolve.float? x.text with
    | some value => .ok (.float value)
    | none => mismatch "a float"
  else if x.hasTag "null" then
    if Resolve.isNull x.text then .ok .unit else mismatch "null"
  else if x.style == .plain && (x.tag.isNone || hasMark x.tag) then .ok (Resolve.plain x.text)
  else .ok (.string (String.ofList x.text))

def mayBeInteger (x : Scalar) : Bool :=
  x.style == .plain || (x.style == .literal && x.hasTag "int")

/-- Whether the scalar stands for the absence of a value, unless its tag asks for something else. -/
def isAbsent (x : Scalar) : Except Fault Bool :=
  if x.style != .plain then .ok false
  else if x.hasTag "null" then
    if Resolve.isNull x.text then .ok true
    else .error (.invalidValue (.string (String.ofList x.text)) "null")
  else if x.tag.isSome then .ok false
  else .ok (x.text.isEmpty || Resolve.isNull x.text)

end Scalar

end LoadSeries.Yaml

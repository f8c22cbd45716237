import LoadSeries.Dataset.Calendar
import LoadSeries.Dataset.Error
import LoadSeries.Text.Blank
import LoadSeries.Text.Digits

/-!
The start of a time axis, as milliseconds since 1970 or as text: a time stamp with an offset, as
RFC 3339 writes it, or a date.
-/
namespace LoadSeries

open Text Calendar

inductive StartTime where
  | millis (value : Int64)
  | text (value : String)
deriving DecidableEq, Repr

namespace StartTime

def takeDigits? (count : Nat) (text : List Char) : Option (Nat × List Char) :=
  let body := text.take count
  if body.length = count ∧ body.all isDigit then some (digitsValue body, text.drop count) else none

/-- One or more digits at the front, at most so many. -/
def takeNumber? (most : Nat) (text : List Char) : Option (Nat × List Char) :=
  let body := (text.take most).takeWhile isDigit
  if body.isEmpty then none else some (digitsValue body, text.drop body.length)

def takeChar? (wanted : Char) : List Char → Option (List Char)
  | [] => none
  | c :: rest => if c = wanted then some rest else none

structure Stamp where
  year : Int
  month : Nat
  day : Nat
  hour : Nat
  minute : Nat
  /-- From 0 to 60; the sixtieth is a leap second, which may end any minute. -/
  second : Nat
  millisecond : Nat
  offset : Int
deriving DecidableEq, Repr

def Stamp.isValid (x : Stamp) : Bool :=
  isDate x.year x.month x.day && x.hour ≤ 23 && x.minute ≤ 59 && x.second ≤ 60

/-- Milliseconds since 1970, with a leap second counted as one more second of its minute. -/
def Stamp.millis (x : Stamp) : Int :=
  dayNumber x.year x.month x.day * millisPerDay +
    (((x.hour : Int) * 60 + x.minute - x.offset) * 60 + x.second) * 1000 + x.millisecond

def takeDate? (text : List Char) : Option ((Nat × Nat × Nat) × List Char) := do
  let (year, rest) ← takeDigits? 4 text
  let rest ← takeChar? '-' rest
  let (month, rest) ← takeDigits? 2 rest
  let rest ← takeChar? '-' rest
  let (day, rest) ← takeDigits? 2 rest
  return ((year, month, day), rest)

def takeClock? (text : List Char) : Option ((Nat × Nat × Nat) × List Char) := do
  let (hour, rest) ← takeDigits? 2 text
  let rest ← takeChar? ':' rest
  let (minute, rest) ← takeDigits? 2 rest
  let rest ← takeChar? ':' rest
  let (second, rest) ← takeDigits? 2 rest
  return ((hour, minute, second), rest)

/-- Milliseconds of a fraction of a second; further digits are dropped. -/
def fractionMillis (digits : List Char) : Nat :=
  digitsValue (digits.take 3 ++ List.replicate (3 - digits.length) '0')

def takeFraction? : List Char → Option (Nat × List Char)
  | '.' :: rest =>
    let body := rest.takeWhile isDigit
    if body.isEmpty then none else some (fractionMillis body, rest.drop body.length)
  | rest => some (0, rest)

def signFactor? (c : Char) : Option Int :=
  if c = '+' then some 1 else if c = '-' ∨ c = Char.ofNat 0x2212 then some (-1) else none

def offset? (text : List Char) : Option Int :=
  match text with
  | [] => none
  | sign :: rest =>
    if (sign = 'Z' ∨ sign = 'z') then if rest.isEmpty then some 0 else none
    else do
      let factor ← signFactor? sign
      let (hours, rest) ← takeDigits? 2 rest
      let rest ← takeChar? ':' rest
      let (minutes, rest) ← takeDigits? 2 rest
      if rest.isEmpty ∧ hours ≤ 23 ∧ minutes ≤ 59 then
        some (factor * ((hours : Int) * 60 + minutes))
      else none

def takeSeparator? : List Char → Option (List Char)
  | [] => none
  | c :: rest => if c = 'T' ∨ c = 't' ∨ c = ' ' then some rest else none

def stamp? (text : List Char) : Option Stamp := do
  let ((year, month, day), rest) ← takeDate? text
  let rest ← takeSeparator? rest
  let ((hour, minute, second), rest) ← takeClock? rest
  let (millisecond, rest) ← takeFraction? rest
  let offset ← offset? rest
  return ⟨year, month, day, hour, minute, second, millisecond, offset⟩

def stampMillis? (text : List Char) : Option Int :=
  match stamp? text with
  | some x => if x.isValid then some x.millis else none
  | none => none

/-- A year at the front: up to four digits, or a sign and any number of them. -/
def takeYear? (text : List Char) : Option (Int × List Char) :=
  match trimStart text with
  | '-' :: rest => (takeNumber? rest.length rest).map fun (n, rest) => (-(n : Int), rest)
  | '+' :: rest => (takeNumber? rest.length rest).map fun (n, rest) => ((n : Int), rest)
  | rest => (takeNumber? 4 rest).map fun (n, rest) => ((n : Int), rest)

/-- Year, month and day of a date. Blanks may stand before each of them. -/
def date? (text : List Char) : Option (Int × Nat × Nat) := do
  let (year, rest) ← takeYear? text
  let rest ← takeChar? '-' rest
  let (month, rest) ← takeNumber? 2 (trimStart rest)
  let rest ← takeChar? '-' rest
  let (day, rest) ← takeNumber? 2 (trimStart rest)
  if rest.isEmpty then some (year, month, day) else none

def dateMillis? (text : List Char) : Option Int :=
  match date? text with
  | some (year, month, day) =>
    if isDate year month day then some (dayNumber year month day * millisPerDay) else none
  | none => none

def textMillis (s : String) : Except ConfigError Int64 :=
  match stampMillis? s.toList with
  | some value => .ok (Int64.ofInt value)
  | none =>
    match dateMillis? s.toList with
    | some value => .ok (Int64.ofInt value)
    | none => .error (.invalidStartTime s)

def toMillis : StartTime → Except ConfigError Int64
  | .millis value => .ok value
  | .text s => textMillis s

end StartTime

end LoadSeries

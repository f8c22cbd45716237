import LoadSeries.Yaml.Reader

/-!
The part of a text that can be read. A text is taken in by portions, and one that holds a character
that no text may hold is not taken in at all; so what stands in the portions before it is known.
-/
namespace LoadSeries.Yaml.Portion

/-- Bytes of a portion, at most. Characters are not divided. -/
def maxSize : Nat := 16384

/-- The number of characters in the portions before the first that cannot be taken in, and of all
that stand before the character at fault. A portion begins at the character `start`, has room for so
many more bytes, and is read up to the character `count`. -/
def firstFault? (room start count : Nat) : List Char → Option (Nat × Nat)
  | [] => none
  | c :: rest =>
    let isFull := room < c.utf8Size
    let start := if isFull then count else start
    let room := if isFull then maxSize else room
    if isPrintable c then firstFault? (room - c.utf8Size) start (count + 1) rest
    else some (start, count)

/-- What can be read of a text, and the fault of what follows if that is not all of it. -/
def known (text : List Char) : List Char × Option SyntaxFault :=
  match firstFault? maxSize 0 0 text with
  | some (start, count) =>
    (text.take start, some (.unreadable (Reader.byteCount (text.take count))))
  | none => (text, none)

end LoadSeries.Yaml.Portion

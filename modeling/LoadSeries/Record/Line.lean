import LoadSeries.Record.Basic
import LoadSeries.Text.Utf8

/-!
A record as a line of text: the columns of the record with a separator between them. No column of a
line holds the separator, so that a line can be cut back into its columns.
-/
namespace LoadSeries.Line

open Text

def standardSeparator : Char := ','

/-- Whether numbers, or the ends of lines, are written with this character. -/
def isReserved (c : Char) : Bool :=
  isDigit c || c == '.' || c == '-' || c == '+' || c == '\n' || c == '\r'

def checkSeparator (c : Char) : Except EncodingError Unit :=
  if isReserved c then .error (.invalidSeparator c) else .ok ()

structure Column where
  name : String
  text : List Char
deriving DecidableEq, Repr

def columns (record : Record) (catalog : Catalog) : List Column :=
  [⟨"timestamp", intText record.timestamp.toInt⟩, ⟨"user_id", intText record.user.toInt⟩] ++
    record.tags.columns.map (fun (name, value) => ⟨name, value.toList⟩) ++
    List.zipWith (fun name value => ⟨name, value.text⟩) catalog.names record.values

def join (separator : Char) : List (List Char) → List Char
  | [] => []
  | [text] => text
  | text :: rest => text ++ separator :: join separator rest

def cut (separator : Char) : List Char → List (List Char)
  | [] => [[]]
  | c :: rest =>
    if c = separator then [] :: cut separator rest
    else match cut separator rest with
      | text :: texts => (c :: text) :: texts
      | [] => [[c]]

def firstOffender? (separator : Char) (columns : List Column) : Option Column :=
  columns.find? (·.text.contains separator)

def encode (separator : Char) (record : Record) (catalog : Catalog) :
    Except EncodingError (List Char) := do
  record.checkFields catalog
  let columns := columns record catalog
  match firstOffender? separator columns with
  | some column =>
    .error (.reservedCharacter column.name (String.ofList column.text) separator)
  | none => .ok (join separator (columns.map (·.text)))

end LoadSeries.Line

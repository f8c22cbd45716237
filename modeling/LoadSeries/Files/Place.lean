import LoadSeries.Files.Fault
import LoadSeries.Text.Utf8

/-!
The places to which paths lead. How a path is resolved is up to the system: to its folders and the
links among them, to its limits, and to what it lets a program do.
-/
namespace LoadSeries

open Text

inductive Device where
  /-- It is empty and keeps nothing. -/
  | null
  /-- It never ends and keeps nothing. -/
  | endless
  /-- It has no room left. -/
  | full
  /-- Standard input, which is empty here. -/
  | input
  | output
  | errors
  | terminal
deriving DecidableEq, Repr

/-- A file goes by a key, which is the same for all paths that lead to it. -/
inductive Place where
  | file (key : String)
  | device (device : Device)
deriving DecidableEq, Repr

/-- How a system resolves paths, given the files that there are by their keys. A path that is to be
written to may also lead to a file that there is not yet; the flag says whether it is. -/
abbrev Paths := List (String × Bytes) → Bool → String → Except FileFault Place

end LoadSeries

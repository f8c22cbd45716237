import LoadSeries.Files.Container

/-! The files that a run can come to, and what a path is to it. -/
namespace LoadSeries

open Text

/-- The files that there are, by their keys, on a system that resolves paths in this way. -/
structure Directory (paths : Paths := Container.paths) where
  files : List (String × Bytes)
deriving DecidableEq, Repr

namespace Directory

variable {paths : Paths}

def empty : Directory paths := ⟨[]⟩

/-- The place to which a path leads, for reading or, if a file may be made there, for writing. -/
def place (x : Directory paths) (creates : Bool) (path : String) : Except FileFault Place :=
  paths x.files creates path

/-- The content of what is at a place. What never ends, or can only be written, has none. -/
def content? (x : Directory paths) : Place → Option Bytes
  | .file key => x.files.lookup key
  | .device .null | .device .input => some []
  | _ => none

def read (x : Directory paths) (path : String) : Except FileFault Bytes := do
  match x.content? (← x.place false path) with
  | some content => return content
  | none => throw .missing

def put (x : Directory paths) (key : String) (content : Bytes) : Directory paths :=
  ⟨(key, content) :: x.files.filter fun file => file.1 ≠ key⟩

end Directory

end LoadSeries

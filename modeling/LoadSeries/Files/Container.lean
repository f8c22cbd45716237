import LoadSeries.Files.Tree

/-!
How the small system resolves paths. A path leads from folder to folder until its last part, which
names a place in the last folder.
-/
namespace LoadSeries.Container

open Text

def maxPathSize : Nat := 4095

def maxNameSize : Nat := 255

def isIdle (part : String) : Bool := part == "." || part == ""

def has (files : List (String × Bytes)) (folder : Folder) (name : String) : Bool :=
  (files.lookup (folder.key name)).isSome

def enter (files : List (String × Bytes)) (folder : Folder) :
    List String → Except FileFault Folder
  | [] => .ok folder
  | part :: rest =>
    if isIdle part then enter files folder rest
    else if part = ".." then enter files folder.parent rest
    else if maxNameSize < part.utf8ByteSize then .error .nameTooLong
    else if has files folder part then .error .notDirectory
    else
      match folder.entry? part with
      | some (.folder next) => enter files next rest
      | some (.device _) => .error .notDirectory
      | none => .error .missing

/-- The place of a name in a folder, behind which there may have been a slash. That allows only a
folder, and none is made. -/
def placeIn (files : List (String × Bytes)) (folder : Folder) (creates hasSlash : Bool)
    (name : String) : Except FileFault Place :=
  if name = "." || name = ".." || (creates && hasSlash) then .error .isDirectory
  else if maxNameSize < name.utf8ByteSize then .error .nameTooLong
  else if has files folder name then
    if hasSlash then .error .notDirectory else .ok (.file (folder.key name))
  else
    match folder.entry? name with
    | some (.folder _) => .error .isDirectory
    | some (.device .terminal) => .error .noDevice
    | some (.device known) => if hasSlash then .error .notDirectory else .ok (.device known)
    | none =>
      if creates && folder.takesFiles then .ok (.file (folder.key name)) else .error .missing

def paths : Paths := fun files creates path => do
  if path.toList.contains '\x00' then throw .holdsZero
  if maxPathSize < path.utf8ByteSize then throw .nameTooLong
  if path.isEmpty then throw .missing
  let parts := (path.toList.splitOn '/').map String.ofList
  let start : Folder := if parts.head? = some "" then .root else .work
  match parts.reverse.dropWhile (·.isEmpty) with
  | [] => throw .isDirectory
  | last :: before =>
    let folder ← enter files start before.reverse
    placeIn files folder creates (parts.getLast? = some "") last

end LoadSeries.Container

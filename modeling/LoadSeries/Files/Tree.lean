import LoadSeries.Files.Place

/-!
The tree of a small system: its folders, which are always the same, and the devices that can stand
in for a file. The working directory lies in the folder for temporary files.
-/
namespace LoadSeries

namespace Device

def ofName? : String → Option Device
  | "null" => some .null
  | "zero" | "random" | "urandom" => some .endless
  | "full" => some .full
  | "stdin" => some .input
  | "stdout" => some .output
  | "stderr" => some .errors
  | "tty" => some .terminal
  | _ => none

def ofNumber? : String → Option Device
  | "0" => some .input
  | "1" => some .output
  | "2" => some .errors
  | _ => none

end Device

inductive Folder where
  | root
  /-- One of those in the root of which nothing more is known. -/
  | system (name : String)
  /-- One that the root shows although it lies in another folder. -/
  | merged (name : String)
  | temporary
  | work
  | devices
  /-- One of those among the devices. -/
  | shared (name : String)
  | processes
  | process
  | opened
deriving DecidableEq, Repr

inductive Entry where
  | folder (folder : Folder)
  | device (device : Device)
deriving DecidableEq, Repr

namespace Folder

def systemNames : List String :=
  ["boot", "etc", "home", "media", "mnt", "opt", "root", "run", "srv", "sys", "usr", "var"]

def mergedNames : List String := ["bin", "lib", "lib64", "sbin"]

def sharedNames : List String := ["mqueue", "pts", "shm"]

/-- The folder around a folder; around the root there is only itself. -/
def parent : Folder → Folder
  | root | system _ | temporary | devices | processes => root
  | merged _ => system "usr"
  | work => temporary
  | shared _ => devices
  | process => processes
  | opened => process

def entry? (x : Folder) (name : String) : Option Entry :=
  match x with
  | root =>
    if name = "tmp" then some (.folder temporary)
    else if name = "dev" then some (.folder devices)
    else if name = "proc" then some (.folder processes)
    else if name ∈ systemNames then some (.folder (system name))
    else if name ∈ mergedNames then some (.folder (merged name))
    else none
  | system "usr" => if name ∈ mergedNames then some (.folder (merged name)) else none
  | devices =>
    if name = "fd" then some (.folder opened)
    else if name ∈ sharedNames then some (.folder (shared name))
    else (Device.ofName? name).map .device
  | processes => if name = "self" then some (.folder process) else none
  | process =>
    if name = "fd" then some (.folder opened)
    else if name = "cwd" then some (.folder work)
    else if name = "root" then some (.folder root)
    else none
  | opened => (Device.ofNumber? name).map .device
  | _ => none

def takesFiles : Folder → Bool
  | processes | process | opened => false
  | _ => true

/-- What stands before a file's name in its key: nothing in the working directory. -/
def front : Folder → String
  | root => "/"
  | system name => "/" ++ name ++ "/"
  | merged name => "/usr/" ++ name ++ "/"
  | temporary => "/tmp/"
  | work => ""
  | devices => "/dev/"
  | shared name => "/dev/" ++ name ++ "/"
  | processes => "/proc/"
  | process => "/proc/self/"
  | opened => "/proc/self/fd/"

def key (x : Folder) (name : String) : String := x.front ++ name

end Folder

end LoadSeries

import LoadSeries.Sink.Basic

/-!
A device with no room left, behind a buffer. Records are accepted as long as the buffer holds them;
the first attempt to pass bytes on is refused.
-/
namespace LoadSeries

open Text

structure FullDevice where
  held : Nat
deriving DecidableEq, Repr

namespace FullDevice

def fresh : FullDevice := ⟨0⟩

def bufferSize : Nat := 8192

def noSpace : String := "No space left on device (os error 28)"

/-- Takes bytes into the buffer. Those that would fill it by themselves go past it. -/
def take (x : FullDevice) (count : Nat) : Except String FullDevice :=
  if count < bufferSize ∧ x.held + count ≤ bufferSize then .ok ⟨x.held + count⟩
  else .error noSpace

def write (ending : Bytes) (x : FullDevice) (record : Bytes) : Except String Nat × FullDevice :=
  match x.take record.length with
  | .error reason => (.error reason, x)
  | .ok taken =>
    match taken.take ending.length with
    | .error reason => (.error reason, taken)
    | .ok terminated => (.ok (record.length + ending.length), terminated)

def sink (ending : Bytes) : Sink FullDevice where
  write := write ending
  flush x := (if x.held = 0 then .ok () else .error noSpace, x)

end FullDevice

end LoadSeries

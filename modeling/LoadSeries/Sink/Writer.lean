import LoadSeries.Sink.Basic

/-!
Storage that takes bytes up to a limit, and the sink that writes records to it with a terminator
behind each.
-/
namespace LoadSeries

open Text

structure Storage where
  newestFirst : List Bytes
  size : Nat
deriving DecidableEq, Repr

namespace Storage

def empty : Storage := ⟨[], 0⟩

def bytes (x : Storage) : Bytes := x.newestFirst.reverse.flatten

def full : String := "disk full"

/-- Stores bytes, all or none; none if the limit would be passed. Nothing at all always fits. -/
def put (limit : Option Nat) (x : Storage) (bytes : Bytes) : Except String Storage :=
  let next : Storage := ⟨bytes :: x.newestFirst, x.size + bytes.length⟩
  match limit with
  | none => .ok next
  | some most => if bytes.isEmpty ∨ next.size ≤ most then .ok next else .error full

end Storage

structure Writer where
  terminator : Option Bytes
  limit : Option Nat
deriving DecidableEq, Repr

namespace Writer

def ending (x : Writer) : Bytes := x.terminator.getD []

/-- Writes a record and then its terminator. A record whose terminator is refused stays stored. -/
def write (x : Writer) (storage : Storage) (record : Bytes) : Except String Nat × Storage :=
  match storage.put x.limit record with
  | .error reason => (.error reason, storage)
  | .ok stored =>
    match stored.put x.limit x.ending with
    | .error reason => (.error reason, stored)
    | .ok terminated => (.ok (record.length + x.ending.length), terminated)

def sink (x : Writer) : Sink Storage where
  write := x.write
  flush storage := (.ok (), storage)

end Writer

end LoadSeries

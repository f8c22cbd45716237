import LoadSeries.Record.Error
import LoadSeries.Text.Utf8

/-! Where records come from: a state from which the next record is pulled. -/
namespace LoadSeries

open Text

inductive Pull (σ : Type) where
  | finished
  | record (bytes : Bytes) (rest : σ)
  /-- A record that cannot be encoded. -/
  | refused (error : EncodingError) (rest : σ)
  | crashed

abbrev Source (σ : Type) := σ → Pull σ

inductive Item where
  | record (bytes : Bytes)
  | refused (error : EncodingError)
  | crash
deriving DecidableEq, Repr

namespace Item

/-- The pull that an item is, with what comes behind it. -/
def pull {σ : Type} (rest : σ) : Item → Pull σ
  | record bytes => .record bytes rest
  | refused error => .refused error rest
  | crash => .crashed

end Item

namespace Source

def listed : Source (List Item)
  | [] => .finished
  | item :: rest => item.pull rest

def endless (items : List Item) : Source (List Item)
  | item :: rest => item.pull rest
  | [] =>
    match items with
    | item :: rest => item.pull rest
    | [] => .finished

def counted {σ : Type} (source : Source σ) : Source (σ × Nat) := fun (state, count) =>
  match source state with
  | .finished => .finished
  | .record bytes rest => .record bytes (rest, count + 1)
  | .refused error rest => .refused error (rest, count)
  | .crashed => .crashed

end Source

end LoadSeries

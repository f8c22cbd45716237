import LoadSeries.Text.Utf8

/-! Where records go: a state that takes one record after another and is flushed in the end. -/
namespace LoadSeries

open Text

structure Sink (τ : Type) where
  /-- Writes a record. Gives the bytes that it takes up, or the reason why it is refused. -/
  write : τ → Bytes → Except String Nat × τ
  flush : τ → Except String Unit × τ
  /-- Whether the sink, having taken a record, calls for the run to be cancelled. -/
  cancels : τ → Bool := fun _ => false

end LoadSeries

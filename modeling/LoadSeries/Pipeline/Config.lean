import LoadSeries.Pipeline.Error

/-! The sizes of a pipeline: records in a batch, batches in the queue, and the wait of one poll. -/
namespace LoadSeries

structure PipelineConfig where
  batchSize : Nat
  queueCapacity : Nat
  pollMillis : Nat
  batchSize_pos : 0 < batchSize := by decide
  queueCapacity_pos : 0 < queueCapacity := by decide
deriving DecidableEq, Repr

namespace PipelineConfig

def standardQueueCapacity : Nat := 16

def standardPollMillis : Nat := 10

def standard : PipelineConfig where
  batchSize := 1000
  queueCapacity := standardQueueCapacity
  pollMillis := standardPollMillis

/-- Bytes of room that a batch needs for each of its records. -/
def roomPerRecord : Nat := 24

def maxRoom : Nat := 0x7fffffffffffffff

/-- Whether there can be room for a batch, all of which is set aside before the first record. -/
def hasRoom (x : PipelineConfig) : Bool := x.batchSize * roomPerRecord ≤ maxRoom

def maxQueueCapacity : Nat := 0x1fffffffffffffff

def hasQueue (x : PipelineConfig) : Bool := x.queueCapacity ≤ maxQueueCapacity

def ofSizes (batchSize queueCapacity : Nat) : Except ConfigError PipelineConfig :=
  if batch : 0 < batchSize then
    if queue : 0 < queueCapacity then
      .ok ⟨batchSize, queueCapacity, standardPollMillis, batch, queue⟩
    else .error (.nonPositive "queue_capacity")
  else .error (.nonPositive "batch_size")

end PipelineConfig

end LoadSeries

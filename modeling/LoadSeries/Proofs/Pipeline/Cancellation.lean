import LoadSeries.Proofs.Pipeline.Delivery
import LoadSeries.Proofs.Pipeline.Inevitable
import LoadSeries.Proofs.Pipeline.WholeBatches

/-!
Cancelled runs. The consumer looks for a cancellation before each poll of the queue, and nowhere
else: a run that is interrupted has written whole batches. If it is cancelled while a batch is being
written, this batch is the last one, and it is written to its end; a run that is cancelled from its
start on writes nothing.
-/
namespace LoadSeries
open Text

namespace Source

variable {σ : Type} {source : Source σ}

/-- The number of records in front of the first item that is no record, or of the end. -/
noncomputable def supply (source : Source σ) (state : σ) : ℕ∞ :=
  ⨆ (records : List Bytes) (rest : σ) (_ : source.Gives state records rest), records.length

theorem Gives.length_le_supply {state rest : σ} {records : List Bytes}
    (gives : source.Gives state records rest) : records.length ≤ source.supply state :=
  le_iSup_of_le records (le_iSup₂_of_le rest gives le_rfl)

theorem Exhausts.supply_eq {state : σ} {records : List Bytes}
    (exhausts : source.Exhausts state records) : source.supply state = records.length := by
  obtain ⟨rest, gives, -⟩ := id exhausts
  refine le_antisymm ?_ gives.length_le_supply
  refine iSup_le fun some => iSup₂_le fun last given => ?_
  exact Nat.cast_le.mpr (exhausts.isPrefix given).length_le

/-- Whole batches hold the records up to the end of the last batch, or all that there are. -/
theorem WholeBatches.length_eq {state : σ} {size count : Nat} {earlier : List (List Bytes)}
    {batch : List Bytes} (whole : source.WholeBatches state size (earlier ++ [batch]))
    (positive : 0 < size) (above : earlier.flatten.length < count)
    (within : count ≤ (earlier ++ [batch]).flatten.length) :
    ((earlier ++ [batch]).flatten.length : ℕ∞) =
      min (source.supply state) ((count + size - 1) / size * size : ℕ) := by
  have full := whole.batched.length_dropLast
  have most : batch.length ≤ size := whole.batched.length_le (by simp)
  have total : (earlier ++ [batch]).flatten.length = earlier.length * size + batch.length := by
    simp [full]
  have place : (count + size - 1) / size = earlier.length + 1 := by
    rw [Nat.div_eq_iff positive, Nat.add_mul]
    omega
  rw [place]
  rcases whole with ⟨allFull, rest, gives⟩ | ⟨-, exhausts⟩
  · have filled : (earlier ++ [batch]).flatten.length = (earlier.length + 1) * size := by
      simpa using allFull.length_flatten
    rw [← filled]
    exact (min_eq_right gives.length_le_supply).symm
  · rw [exhausts.supply_eq]
    have fits : (earlier ++ [batch]).flatten.length ≤ (earlier.length + 1) * size := by
      rw [total, Nat.add_mul]
      omega
    exact (min_eq_left (Nat.cast_le.mpr fits)).symm

end Source

namespace Setup

variable {σ τ : Type} {x : Setup σ τ} {origin : σ} {into : τ} {cancelled : Bool}

theorem next?_cancelled (quiet : ∀ state, x.sink.cancels state = false) {s t : System σ τ}
    (next : x.next? s = some t) : t.cancelled = s.cancelled := by
  rcases step_of_next? next with taken | taken
  · exact (produce_move taken).frame.cancelled
  · obtain ⟨events, move⟩ : ∃ events, x.ConsumerMove s events t := ⟨_, consume_move taken⟩
    cases move <;> simp [quiet, System.enter, System.hangUp, System.fail, Setup.closeBatch]

/-- The schedule that is carried out cancels nothing, unless the sink does. -/
theorem run_cancelled (quiet : ∀ state, x.sink.cancels state = false) (fuel : Nat)
    (s : System σ τ) : (x.run fuel s).cancelled = s.cancelled := by
  induction fuel generalizing s with
  | zero => rfl
  | succ fuel ih =>
    unfold run
    split
    · rfl
    · split
      · rename_i t next
        rw [ih t, next?_cancelled quiet next]
      · rfl

/-- A cancelled run in which these records are still to be accepted, and nothing else. -/
def Closing (rest : List Bytes) (after : List Event) (s : System σ τ) : Prop :=
  s.cancelled = true ∧
    match s.consumer with
    | .writing left => acceptedRecords after ++ left = rest
    | .polling | .joining | .returned (.error .interrupted) => acceptedRecords after = rest
    | _ => False

theorem Closing.result {after : List Event} {rest : List Bytes} {s : System σ τ}
    {result : Except PipelineError Progress} (closing : Closing rest after s)
    (returned : s.result? = some result) :
    result = .error .interrupted ∧ acceptedRecords after = rest := by
  have place := closing.2
  rw [consumer_of_result? returned] at place
  split at place <;> simp_all

end Setup

theorem Pipeline.run_uncancelled {σ τ : Type} {x : Pipeline} {fuel : Nat} {source : Source σ}
    {origin : σ} {sink : Sink τ} {into : τ} {report : Report τ}
    (quiet : ∀ state, sink.cancels state = false)
    (ran : x.run fuel source origin sink into = some report) :
    report.pipeline.cancelled = x.cancelled := by
  unfold run at ran
  split at ran
  · cases ran
    rfl
  · split at ran
    · cases ran
    · obtain ⟨result, -, rfl⟩ := Option.map_eq_some_iff.mp ran
      exact Setup.run_cancelled quiet fuel _

end LoadSeries

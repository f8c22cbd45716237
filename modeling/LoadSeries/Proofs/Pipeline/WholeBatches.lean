import LoadSeries.Proofs.Pipeline.Safety

/-!
Whole batches. The batches that are sent, and so those that the consumer takes, are made up of a
source from its front; each is full, or it is the last one of a source that is finished. Of the
batch that the consumer is writing a part has been accepted and the rest is left.
-/
namespace LoadSeries
open Text

theorem AllFull.of_isPrefix {size : Nat} {batches all : List (List Bytes)}
    (full : AllFull size all) (front : batches <+: all) : AllFull size batches :=
  fun batch member => full batch (front.subset member)

theorem AllFull.take_flatten {size : Nat} {batches : List (List Bytes)} {records : List Bytes}
    (full : AllFull size batches) (front : batches.flatten <+: records) :
    batches.flatten = records.take (batches.length * size) := by
  rw [← full.length_flatten]
  exact List.prefix_iff_eq_take.mp front

theorem Batched.length_le {size : Nat} {batches : List (List Bytes)} {batch : List Bytes}
    (batched : Batched size batches) (member : batch ∈ batches) : batch.length ≤ size := by
  obtain ⟨full, last, rfl, allFull, ending⟩ := batched
  rcases List.mem_append.mp member with earlier | latest
  · exact (allFull batch earlier).le
  · rcases ending with rfl | ⟨short, rfl, -, less⟩
    · cases latest
    · rw [List.mem_singleton.mp latest]
      exact less.le

theorem Batched.length_dropLast {size : Nat} {batches : List (List Bytes)} {last : List Bytes}
    (batched : Batched size (batches ++ [last])) :
    batches.flatten.length = batches.length * size := by
  obtain ⟨full, short, split, allFull, rfl | ⟨batch, rfl, -⟩⟩ := batched
  · rw [List.append_nil] at split
    exact (allFull.of_isPrefix ⟨[last], split⟩).length_flatten
  · obtain ⟨rfl, -⟩ := List.append_inj' split rfl
    exact allFull.length_flatten

namespace Source

variable {σ : Type} {source : Source σ}

/-- Full batches from the front of the source, or all that the source comes to. -/
def WholeBatches (source : Source σ) (state : σ) (size : Nat) (batches : List (List Bytes)) :
    Prop :=
  AllFull size batches ∧ (∃ rest, source.Gives state batches.flatten rest) ∨
    Batched size batches ∧ source.Exhausts state batches.flatten

theorem WholeBatches.batched {state : σ} {size : Nat} {batches : List (List Bytes)}
    (whole : source.WholeBatches state size batches) : Batched size batches := by
  rcases whole with ⟨full, -⟩ | ⟨batched, -⟩
  · exact full.batched
  · exact batched

theorem WholeBatches.gives {state : σ} {size : Nat} {batches : List (List Bytes)}
    (whole : source.WholeBatches state size batches) :
    ∃ rest, source.Gives state batches.flatten rest := by
  rcases whole with ⟨-, gives⟩ | ⟨-, rest, gives, -⟩
  · exact gives
  · exact ⟨rest, gives⟩

theorem WholeBatches.of_isPrefix {state : σ} {size : Nat} {batches all : List (List Bytes)}
    (whole : source.WholeBatches state size all) (front : batches <+: all) :
    source.WholeBatches state size batches := by
  obtain ⟨rest, gives⟩ := whole.gives
  have begins : ∃ next, source.Gives state batches.flatten next :=
    gives.of_isPrefix front.flatten
  rcases whole with ⟨full, -⟩ | ⟨batched, exhausts⟩
  · exact .inl ⟨full.of_isPrefix front, begins⟩
  · obtain ⟨full, last, rfl, allFull, ending⟩ := batched
    rcases ending with rfl | ⟨short, rfl, filled, less⟩
    · rw [List.append_nil] at front
      exact .inl ⟨allFull.of_isPrefix front, begins⟩
    · -- Without the short batch at the end all batches are full.
      rcases List.prefix_concat_iff.mp front with rfl | shorter
      · exact .inr ⟨⟨full, [short], rfl, allFull, .inr ⟨short, rfl, filled, less⟩⟩, exhausts⟩
      · exact .inl ⟨allFull.of_isPrefix shorter, begins⟩

/-- A source that comes to an item that is no record, and not to its end, fills its batches. -/
theorem WholeBatches.allFull {state : σ} {size : Nat} {batches : List (List Bytes)}
    (whole : source.WholeBatches state size batches)
    (endless : ¬ source.Exhausts state batches.flatten) : AllFull size batches := by
  rcases whole with ⟨full, -⟩ | ⟨-, exhausts⟩
  · exact full
  · exact absurd exhausts endless

end Source

namespace Setup

variable {σ τ : Type} {x : Setup σ τ} {origin : σ} {into : τ} {cancelled : Bool}

private theorem wholeBatches_produce {s t : System σ τ} {events new : List Event}
    (supplied : x.Supplied origin events s)
    (whole : x.source.WholeBatches origin x.config.batchSize (sentBatches events))
    (move : x.ProducerMove s new t) :
    x.source.WholeBatches origin x.config.batchSize (sentBatches (events ++ new)) := by
  cases move with
  | @send batch sending receiving room =>
    simp only [Supplied, sending] at supplied
    obtain ⟨gives, held, full, length⟩ := supplied
    have all : sentBatches (events ++ [.sent batch]) = sentBatches events ++ [batch] := by simp
    have front : (sentBatches events ++ [batch]).flatten = pulledRecords events := by simp [held]
    rw [all]
    exact .inl ⟨full.snoc length, s.source, front ▸ gives⟩
  | @sendLast batch sending receiving room =>
    simp only [Supplied, sending, if_true] at supplied
    obtain ⟨gives, held, full, finished, filled, short⟩ := supplied
    have all : sentBatches (events ++ [.sent batch]) = sentBatches events ++ [batch] := by simp
    have front : (sentBatches events ++ [batch]).flatten = pulledRecords events := by simp [held]
    rw [all]
    exact .inr ⟨⟨_, _, rfl, full, .inr ⟨batch, rfl, filled, short⟩⟩, s.source, front ▸ gives,
      finished⟩
  | _ => simpa using whole

theorem run_wholeBatches {events : List Event} {s : System σ τ}
    (run : x.Run (x.start origin into cancelled) events s) :
    x.source.WholeBatches origin x.config.batchSize (sentBatches events) := by
  refine run.preserves
    (fun events _ => x.source.WholeBatches origin x.config.batchSize (sentBatches events)) ?_
    (fun before whole move => wholeBatches_produce (run_supplied before) whole move) ?_
    (fun _ whole => whole)
  · exact .inl ⟨by simp [AllFull], origin, .nil origin⟩
  · intro events t new u _ whole move
    obtain ⟨-, -, -, -, -, sent⟩ := move.frame
    simpa [sent] using whole

theorem taken_wholeBatches {events : List Event} {s : System σ τ}
    (run : x.Run (x.start origin into cancelled) events s) :
    x.source.WholeBatches origin x.config.batchSize (takenBatches events) :=
  (run_wholeBatches run).of_isPrefix (run_queued run).taken

/-- The batch that is being written is the last one taken; those before it are accepted. -/
def InHand (events : List Event) (s : System σ τ) : Prop :=
  match s.consumer with
  | .writing rest => ∃ earlier written,
      takenBatches events = earlier ++ [written ++ rest] ∧
        acceptedRecords events = earlier.flatten ++ written
  | _ => True

private theorem inHand_consume {s t : System σ τ} {events new : List Event}
    (run : x.Run (x.start origin into cancelled) events s) (inHand : InHand events s)
    (move : x.ConsumerMove s new t) : InHand (events ++ new) t := by
  cases move with
  | take popped going =>
    have written := (run_written run).2.2
    simp only [popped] at written
    exact ⟨takenBatches events, [], by simp, by simpa using written.1⟩
  | @write record rest bytes sink writing accepted =>
    simp only [InHand, writing] at inHand
    obtain ⟨earlier, written, taken, front⟩ := inHand
    have more : acceptedRecords (events ++ [.written record (.ok bytes)]) =
        acceptedRecords events ++ [record] := by simp
    exact ⟨earlier, written ++ [record], by simp [taken], by rw [more, front, List.append_assoc]⟩
  | _ => simp [InHand, System.enter, System.hangUp, System.fail, Setup.closeBatch]

theorem run_inHand {events : List Event} {s : System σ τ}
    (run : x.Run (x.start origin into cancelled) events s) : InHand events s := by
  refine run.preserves InHand ?_ ?_ inHand_consume (fun _ inHand => inHand)
  · simp [InHand, start, System.start, System.enter]
  · intro events t new u _ inHand move
    have same := move.frame
    unfold InHand at inHand ⊢
    rw [same.consumer]
    simpa [same.taken, same.accepted] using inHand

/-- Of the batch in hand no more is left than goes into a batch. -/
theorem length_left_le {events : List Event} {s : System σ τ} {rest : List Bytes}
    (run : x.Run (x.start origin into cancelled) events s)
    (writing : s.consumer = .writing rest) : rest.length ≤ x.config.batchSize := by
  have inHand := run_inHand run
  simp only [InHand, writing] at inHand
  obtain ⟨earlier, written, taken, -⟩ := inHand
  have member : written ++ rest ∈ takenBatches events := by simp [taken]
  have size := (taken_wholeBatches run).batched.length_le member
  rw [List.length_append] at size
  omega

end Setup

end LoadSeries

import LoadSeries.Proofs.Pipeline.Move

/-!
What the producer does with its source. Whatever the consumer does, the records pulled are the
first ones of the source; they make up the batches that were sent and the one that is being filled,
all of them full but the last one of a source that is finished.
-/
namespace LoadSeries
open Text

namespace Source

variable {σ : Type} {source : Source σ}

/-- The source brings these records in a row, and is then in another state. -/
inductive Gives (source : Source σ) : σ → List Bytes → σ → Prop
  | nil (state : σ) : Gives source state [] state
  | cons {state next rest : σ} {bytes : Bytes} {records : List Bytes}
      (found : source state = .record bytes next) (more : Gives source next records rest) :
      Gives source state (bytes :: records) rest

def Exhausts (source : Source σ) (state : σ) (records : List Bytes) : Prop :=
  ∃ rest, source.Gives state records rest ∧ source rest = .finished

/-- Behind these records the source brings one that cannot be encoded. -/
def Refuses (source : Source σ) (state : σ) (records : List Bytes) (error : EncodingError) :
    Prop :=
  ∃ rest later, source.Gives state records rest ∧ source rest = .refused error later

/-- Behind these records the source comes to a sudden end. -/
def Crashes (source : Source σ) (state : σ) (records : List Bytes) : Prop :=
  ∃ rest, source.Gives state records rest ∧ source rest = .crashed

theorem Gives.snoc {state rest next : σ} {records : List Bytes} {bytes : Bytes}
    (gives : source.Gives state records rest) (found : source rest = .record bytes next) :
    source.Gives state (records ++ [bytes]) next := by
  induction gives with
  | nil => exact .cons found (.nil _)
  | cons first _ ih => exact .cons first (ih found)

/-- The records up to the first item that is no record are determined, and so is that item. -/
theorem Gives.eq_of_stops {state rest last : σ} {records all : List Bytes}
    (gives : source.Gives state records rest) (whole : source.Gives state all last)
    (stops : ∀ bytes next, source rest ≠ .record bytes next)
    (stops' : ∀ bytes next, source last ≠ .record bytes next) : records = all ∧ rest = last := by
  induction gives generalizing all with
  | nil =>
    cases whole with
    | nil => exact ⟨rfl, rfl⟩
    | cons found _ => exact absurd found (stops _ _)
  | cons found _ ih =>
    cases whole with
    | nil => exact absurd found (stops' _ _)
    | cons found' more =>
      obtain ⟨rfl, rfl⟩ : _ = _ ∧ _ = _ := by simpa [found] using found'
      obtain ⟨rfl, rfl⟩ := ih more stops
      exact ⟨rfl, rfl⟩

theorem Gives.isPrefix_or {state rest last : σ} {records all : List Bytes}
    (first : source.Gives state records rest) (second : source.Gives state all last) :
    records <+: all ∨ all <+: records := by
  induction first generalizing all with
  | nil => exact .inl List.nil_prefix
  | cons found _ ih =>
    cases second with
    | nil => exact .inr List.nil_prefix
    | cons found' more =>
      rw [found] at found'
      cases found'
      exact (ih more).imp (List.prefix_cons_inj _).mpr (List.prefix_cons_inj _).mpr

theorem listed_exhausts (records : List Bytes) :
    listed.Exhausts (records.map .record) records := by
  induction records with
  | nil => exact ⟨[], .nil [], rfl⟩
  | cons bytes _ ih =>
    obtain ⟨rest, gives, finished⟩ := ih
    exact ⟨rest, .cons rfl gives, finished⟩

theorem listed_gives (records : List Bytes) (rest : List Item) :
    listed.Gives (records.map .record ++ rest) records rest := by
  induction records with
  | nil => exact .nil rest
  | cons bytes _ ih => exact .cons rfl ih

theorem Exhausts.unique {state : σ} {records all : List Bytes}
    (first : source.Exhausts state records) (second : source.Exhausts state all) :
    records = all := by
  obtain ⟨rest, gives, finished⟩ := first
  obtain ⟨last, whole, finished'⟩ := second
  exact (gives.eq_of_stops whole (by simp [finished]) (by simp [finished'])).1

theorem Exhausts.isPrefix {state rest : σ} {records all : List Bytes}
    (exhausts : source.Exhausts state all) (gives : source.Gives state records rest) :
    records <+: all := by
  induction gives generalizing all with
  | nil => exact List.nil_prefix
  | cons found _ ih =>
    obtain ⟨last, whole, finished⟩ := exhausts
    cases whole with
    | nil => simp [found] at finished
    | cons found' more =>
      rw [found] at found'
      cases found'
      exact (List.prefix_cons_inj _).mpr (ih ⟨last, more, finished⟩)

theorem Exhausts.not_refuses {state : σ} {records some : List Bytes} {error : EncodingError}
    (exhausts : source.Exhausts state records) : ¬ source.Refuses state some error := by
  obtain ⟨rest, gives, finished⟩ := exhausts
  rintro ⟨last, later, whole, refused⟩
  obtain ⟨-, rfl⟩ := gives.eq_of_stops whole (by simp [finished]) (by simp [refused])
  simp [finished] at refused

theorem Exhausts.not_crashes {state : σ} {records some : List Bytes}
    (exhausts : source.Exhausts state records) : ¬ source.Crashes state some := by
  obtain ⟨rest, gives, finished⟩ := exhausts
  rintro ⟨last, whole, crashed⟩
  obtain ⟨-, rfl⟩ := gives.eq_of_stops whole (by simp [finished]) (by simp [crashed])
  simp [finished] at crashed

theorem Refuses.unique {state : σ} {records all : List Bytes} {error other : EncodingError}
    (first : source.Refuses state records error) (second : source.Refuses state all other) :
    records = all ∧ error = other := by
  obtain ⟨rest, later, gives, refused⟩ := first
  obtain ⟨last, later', whole, refused'⟩ := second
  obtain ⟨same, rfl⟩ := gives.eq_of_stops whole (by simp [refused]) (by simp [refused'])
  rw [refused] at refused'
  cases refused'
  exact ⟨same, rfl⟩

theorem Refuses.not_crashes {state : σ} {records some : List Bytes} {error : EncodingError}
    (refuses : source.Refuses state records error) : ¬ source.Crashes state some := by
  obtain ⟨rest, later, gives, refused⟩ := refuses
  rintro ⟨last, whole, crashed⟩
  obtain ⟨-, rfl⟩ := gives.eq_of_stops whole (by simp [refused]) (by simp [crashed])
  simp [refused] at crashed

theorem Crashes.unique {state : σ} {records all : List Bytes}
    (first : source.Crashes state records) (second : source.Crashes state all) :
    records = all := by
  obtain ⟨rest, gives, crashed⟩ := first
  obtain ⟨last, whole, crashed'⟩ := second
  exact (gives.eq_of_stops whole (by simp [crashed]) (by simp [crashed'])).1

end Source

def AllFull (size : Nat) (batches : List (List Bytes)) : Prop :=
  ∀ batch ∈ batches, batch.length = size

/-- All batches hold so many records, but for a last one that holds fewer. -/
def Batched (size : Nat) (batches : List (List Bytes)) : Prop :=
  ∃ full last, batches = full ++ last ∧ AllFull size full ∧
    (last = [] ∨ ∃ batch, last = [batch] ∧ 0 < batch.length ∧ batch.length < size)

theorem AllFull.snoc {size : Nat} {batches : List (List Bytes)} {batch : List Bytes}
    (full : AllFull size batches) (length : batch.length = size) :
    AllFull size (batches ++ [batch]) := by
  intro other member
  rcases List.mem_append.mp member with earlier | latest
  · exact full other earlier
  · rw [List.mem_singleton.mp latest, length]

theorem AllFull.batched {size : Nat} {batches : List (List Bytes)} (full : AllFull size batches) :
    Batched size batches :=
  ⟨batches, [], by simp, full, .inl rfl⟩

theorem AllFull.length_flatten {size : Nat} {batches : List (List Bytes)}
    (full : AllFull size batches) : batches.flatten.length = batches.length * size := by
  induction batches with
  | nil => simp
  | cons batch rest ih =>
    have tail := ih fun other member => full other (List.mem_cons_of_mem _ member)
    rw [List.flatten_cons, List.length_append, full batch List.mem_cons_self, tail,
      List.length_cons, Nat.add_mul, Nat.one_mul, Nat.add_comm]

theorem Batched.length_eq {size : Nat} {batches : List (List Bytes)} (positive : 0 < size)
    (batched : Batched size batches) :
    batches.length = (batches.flatten.length + size - 1) / size := by
  obtain ⟨full, last, rfl, allFull, rfl | ⟨batch, rfl, filled, short⟩⟩ := batched
  · rw [List.append_nil, allFull.length_flatten]
    symm
    rw [Nat.div_eq_iff positive]
    omega
  · simp only [List.flatten_append, List.length_append, allFull.length_flatten,
      List.flatten_cons, List.flatten_nil, List.append_nil, List.length_singleton]
    symm
    rw [Nat.div_eq_iff positive, Nat.add_mul]
    omega

namespace Setup

variable {σ τ : Type} {x : Setup σ τ} {origin : σ} {into : τ} {cancelled : Bool}

def start (x : Setup σ τ) (origin : σ) (into : τ) (cancelled : Bool) : System σ τ :=
  .start x.config origin into cancelled

/-- The records that were not sent when the producer ended: fewer than a batch. -/
def Short (x : Setup σ τ) (events : List Event) : Prop :=
  AllFull x.config.batchSize (sentBatches events) ∧
    ∃ unsent, pulledRecords events = (sentBatches events).flatten ++ unsent ∧
      unsent.length < x.config.batchSize

/-- What the end of the producer says of the source and of the batches sent. -/
def Ended (x : Setup σ τ) (origin : σ) (events : List Event) (receiving : Bool) : Ending → Prop
  | .completed =>
    x.source.Exhausts origin (pulledRecords events) ∧
      pulledRecords events = (sentBatches events).flatten ∧
      Batched x.config.batchSize (sentBatches events)
  | .refused error => x.source.Refuses origin (pulledRecords events) error ∧ x.Short events
  | .interrupted =>
    receiving = false ∧ (∃ rest, x.source.Gives origin (pulledRecords events) rest) ∧
      (sentBatches events).flatten <+: pulledRecords events
  | .crashed =>
    (x.source.Crashes origin (pulledRecords events) ∨
      x.config.hasRoom = false ∧ pulledRecords events = []) ∧ x.Short events

/-- What the stage of the producer says of the source and of the batches sent. -/
def Supplied (x : Setup σ τ) (origin : σ) (events : List Event) (s : System σ τ) : Prop :=
  match s.producer with
  | .pulling batch =>
    x.source.Gives origin (pulledRecords events) s.source ∧
      pulledRecords events = (sentBatches events).flatten ++ batch.toList ∧
      AllFull x.config.batchSize (sentBatches events) ∧ batch.size < x.config.batchSize
  | .sending batch isLast =>
    x.source.Gives origin (pulledRecords events) s.source ∧
      pulledRecords events = (sentBatches events).flatten ++ batch ∧
      AllFull x.config.batchSize (sentBatches events) ∧
      if isLast then
        x.source s.source = .finished ∧ 0 < batch.length ∧ batch.length < x.config.batchSize
      else batch.length = x.config.batchSize
  | .ending how | .finished how => x.Ended origin events s.receiving how

/-- The moves of the consumer leave all of the producer's state alone, but for the receiving end of
the queue, which may be given up. -/
theorem ConsumerMove.frame {s t : System σ τ} {new : List Event} (move : x.ConsumerMove s new t) :
    t.source = s.source ∧ t.producer = s.producer ∧ t.aborted = s.aborted ∧
      (t.receiving = true → s.receiving = true) ∧ pulledRecords new = [] ∧
      sentBatches new = [] := by
  cases move <;> simp [System.enter, System.hangUp, System.fail, Setup.closeBatch]

theorem Ended.unheard {events : List Event} {receiving receiving' : Bool} {how : Ending}
    (ended : x.Ended origin events receiving how)
    (monotone : receiving' = true → receiving = true) :
    x.Ended origin events receiving' how := by
  cases how with
  | interrupted =>
    obtain ⟨deaf, rest⟩ := ended
    refine ⟨?_, rest⟩
    cases receiving' with
    | false => rfl
    | true => exact (monotone rfl).symm.trans deaf
  | _ => exact ended

private theorem supplied_start : x.Supplied origin [] (x.start origin into cancelled) := by
  have stage : (x.start origin into cancelled).producer =
      if x.config.hasRoom then .pulling .empty else .ending .crashed := rfl
  unfold Supplied
  rw [stage]
  cases room : x.config.hasRoom with
  | true => exact ⟨.nil origin, rfl, by simp [AllFull], x.config.batchSize_pos⟩
  | false => exact ⟨.inr ⟨room, rfl⟩, by simp [AllFull], [], rfl, x.config.batchSize_pos⟩

private theorem supplied_produce {s t : System σ τ} {events new : List Event}
    (supplied : x.Supplied origin events s) (move : x.ProducerMove s new t) :
    x.Supplied origin (events ++ new) t := by
  cases move with
  | exhaust pulling finished empty =>
    simp only [Supplied, pulling] at supplied
    obtain ⟨gives, held, full, -⟩ := supplied
    rw [List.length_eq_zero_iff.mp ((Batch.length_toList _).trans empty)] at held
    simpa [Supplied, Ended] using ⟨⟨_, gives, finished⟩, by simpa using held, full.batched⟩
  | close pulling finished filled =>
    simp only [Supplied, pulling] at supplied
    obtain ⟨gives, held, full, short⟩ := supplied
    simpa [Supplied, Batch.length_toList] using
      ⟨gives, held, full, finished, Nat.pos_of_ne_zero filled, short⟩
  | fill pulling found complete =>
    simp only [Supplied, pulling] at supplied
    obtain ⟨gives, held, full, -⟩ := supplied
    simpa [Supplied, held, Batch.length_toList, complete] using
      ⟨by simpa [held] using gives.snoc found, full⟩
  | gather pulling found room =>
    simp only [Supplied, pulling] at supplied
    obtain ⟨gives, held, full, short⟩ := supplied
    simpa [Supplied, held] using ⟨by simpa [held] using gives.snoc found, full, by omega⟩
  | refuse pulling found =>
    simp only [Supplied, pulling] at supplied
    obtain ⟨gives, held, full, short⟩ := supplied
    simpa [Supplied, Ended, Short] using
      ⟨⟨_, _, gives, found⟩, full, _, held, by rwa [Batch.length_toList]⟩
  | crash pulling found =>
    simp only [Supplied, pulling] at supplied
    obtain ⟨gives, held, full, short⟩ := supplied
    simpa [Supplied, Ended, Short] using
      ⟨.inl ⟨_, gives, found⟩, full, _, held, by rwa [Batch.length_toList]⟩
  | giveUp sending deaf =>
    simp only [Supplied, sending] at supplied
    obtain ⟨gives, held, -⟩ := supplied
    simpa [Supplied, Ended] using ⟨deaf, ⟨_, gives⟩, by simp [held]⟩
  | send sending receiving room =>
    simp only [Supplied, sending] at supplied
    obtain ⟨gives, held, full, length⟩ := supplied
    simpa [Supplied, held] using
      ⟨by simpa [held] using gives, full.snoc length, x.config.batchSize_pos⟩
  | sendLast sending receiving room =>
    simp only [Supplied, sending, if_true] at supplied
    obtain ⟨gives, held, full, finished, filled, short⟩ := supplied
    simpa [Supplied, Ended, held] using
      ⟨⟨_, by simpa [held] using gives, finished⟩, _, _, rfl, full, .inr ⟨_, rfl, filled, short⟩⟩
  | finish ending =>
    simp only [Supplied, ending] at supplied
    simpa [Supplied] using supplied

theorem run_supplied {events : List Event} {s : System σ τ}
    (run : x.Run (x.start origin into cancelled) events s) : x.Supplied origin events s := by
  refine run.preserves (x.Supplied origin) supplied_start (fun _ => supplied_produce) ?_
    (fun _ supplied => supplied)
  intro events t new u _ supplied move
  -- A move of the consumer matters only in that it may give up the receiving end.
  obtain ⟨source, producer, -, receiving, pulled, sent⟩ := move.frame
  have kept (how : Ending) (ended : x.Ended origin events t.receiving how) :
      x.Ended origin (events ++ new) u.receiving how := by
    have unheard := ended.unheard receiving
    cases how <;> simpa [Ended, Short, pulled, sent] using unheard
  unfold Supplied at supplied ⊢
  rw [producer, source]
  cases stage : t.producer with
  | pulling batch => simpa [stage, pulled, sent] using supplied
  | sending batch isLast => simpa [stage, pulled, sent] using supplied
  | ending how => exact kept how (by simpa [stage] using supplied)
  | finished how => exact kept how (by simpa [stage] using supplied)

end Setup

end LoadSeries

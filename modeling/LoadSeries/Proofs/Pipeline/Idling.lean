import LoadSeries.Pipeline.DrainGuard
import Mathlib

/-!
What a guard answers to any row of observations. It counts the last empty polls that found the
producer finished, up to what a byte holds, and so it lets the consumer stop behind two of them in a
row, however many there are, and behind nothing else.
-/
namespace LoadSeries.DrainGuard

inductive Observation where
  | pop
  | idle (producerFinished : Bool)
deriving DecidableEq, Repr

/-- Nothing is asked behind a pop. -/
def observe (x : DrainGuard) : Observation → DrainGuard × Option Bool
  | .pop => (x.observePop, none)
  | .idle producerFinished => (x.observeIdle producerFinished).map id some

def after (x : DrainGuard) : List Observation → DrainGuard
  | [] => x
  | seen :: rest => (x.observe seen).1.after rest

/-- The answers to a row of observations, one for each of them. -/
def answers (x : DrainGuard) : List Observation → List (Option Bool)
  | [] => []
  | seen :: rest => (x.observe seen).2 :: (x.observe seen).1.answers rest

/-- How many observations at the end are empty polls that found the producer finished. -/
def confirming (observations : List Observation) : Nat :=
  (observations.reverse.takeWhile (· = .idle true)).length

variable {x : DrainGuard} {seen : Observation} {observations before rest : List Observation}
  {i : Nat}

theorem after_append : x.after (before ++ rest) = (x.after before).after rest := by
  induction before generalizing x with
  | nil => rfl
  | cons seen before ih => exact ih

theorem answers_append :
    x.answers (before ++ rest) = x.answers before ++ (x.after before).answers rest := by
  induction before generalizing x with
  | nil => rfl
  | cons seen before ih => exact congrArg ((x.observe seen).2 :: ·) ih

theorem confirming_snoc (seen : Observation) : confirming (observations ++ [seen]) =
    if seen = .idle true then confirming observations + 1 else 0 := by
  unfold confirming
  rw [List.reverse_append, List.reverse_singleton, List.singleton_append, List.takeWhile_cons]
  split <;> simp_all

theorem toNat_confirm (x : DrainGuard) :
    x.confirm.confirmations.toNat = min (x.confirmations.toNat + 1) 255 := by
  have byte := x.confirmations.toNat_lt
  unfold confirm
  dsimp only
  split
  · rename_i full
    rw [full]
    rfl
  · rename_i room
    have less : x.confirmations.toNat ≠ 255 := fun same => room (UInt8.toNat_inj.mp same)
    rw [UInt8.toNat_add, UInt8.toNat_one]
    omega

theorem observe_of_ne (other : seen ≠ .idle true) :
    (x.observe seen).1 = fresh ∧ (x.observe seen).2 ≠ some true := by
  rcases seen with - | (- | -)
  · exact ⟨rfl, by simp [observe]⟩
  · exact ⟨rfl, by simp [observe, observeIdle]⟩
  · exact absurd rfl other

theorem observe_closing_eq_true_iff :
    (x.observe (.idle true)).2 = some true ↔ 2 ≤ x.confirm.confirmations.toNat :=
  Option.some_inj.trans decide_eq_true_iff

/-- One more observation: the count goes on where it stands at the most a byte holds. -/
theorem toNat_observe (x : DrainGuard) (seen : Observation) :
    (x.observe seen).1.confirmations.toNat =
      if seen = .idle true then min (x.confirmations.toNat + 1) 255 else 0 := by
  split
  · rename_i closing
    rw [closing, ← toNat_confirm]
    rfl
  · rename_i other
    rw [(observe_of_ne other).1]
    rfl

theorem toNat_after (observations : List Observation) :
    (fresh.after observations).confirmations.toNat = min (confirming observations) 255 := by
  induction observations using List.reverseRecOn with
  | nil => rfl
  | append_singleton before seen ih =>
    rw [after_append, confirming_snoc, after, after, toNat_observe, ih]
    split <;> omega

theorem confirming_pos_iff :
    0 < confirming observations ↔ observations.getLast? = some (.idle true) := by
  rcases List.eq_nil_or_concat observations with rfl | ⟨before, last, rfl⟩
  · simp [confirming]
  · rw [List.concat_eq_append, List.getLast?_concat, confirming_snoc, Option.some.injEq]
    split <;> simp_all

theorem answer_eq_true_iff (before : List Observation) (seen : Observation) :
    ((fresh.after before).observe seen).2 = some true ↔
      before.getLast? = some (.idle true) ∧ seen = .idle true := by
  by_cases closing : seen = .idle true
  · rw [closing, observe_closing_eq_true_iff, toNat_confirm, toNat_after, ← confirming_pos_iff]
    simp only [and_true]
    omega
  · simp [closing, (observe_of_ne closing).2]

theorem getElem?_answers (observations : List Observation) (i : Nat) :
    (x.answers observations)[i]? =
      observations[i]?.map fun seen => ((x.after (observations.take i)).observe seen).2 := by
  induction observations generalizing x i with
  | nil => rfl
  | cons seen rest ih =>
    cases i with
    | zero => rfl
    | succ i => exact ih i

theorem getElem?_answers_eq_true_iff (observations : List Observation) (i : Nat) :
    (fresh.answers observations)[i]? = some (some true) ↔
      ∃ j, i = j + 1 ∧ observations[j]? = some (.idle true) ∧
        observations[i]? = some (.idle true) := by
  rw [getElem?_answers, Option.map_eq_some_iff]
  simp only [answer_eq_true_iff]
  cases i with
  | zero => simp
  | succ j =>
    have previous (inside : j + 1 < observations.length) :
        (observations.take (j + 1)).getLast? = observations[j]? := by
      rw [List.getLast?_take, if_neg (Nat.succ_ne_zero j), Nat.add_sub_cancel,
        List.getElem?_eq_getElem (Nat.lt_of_succ_lt inside), Option.some_or]
    constructor
    · rintro ⟨seen, found, last, rfl⟩
      rw [previous (List.getElem?_eq_some_iff.mp found).1] at last
      exact ⟨j, rfl, last, found⟩
    · rintro ⟨_, ⟨⟩, last, found⟩
      rw [← previous (List.getElem?_eq_some_iff.mp found).1] at last
      exact ⟨_, found, last, rfl⟩

/-- The guard lets the consumer stop at an empty poll that found the producer finished, just behind
another one, and nowhere else. So it goes on to do, however long such a row is, and whatever else is
observed within it has the guard begin anew. -/
theorem stops_exactly :
    (∀ (observations : List Observation) (i : Nat),
      (fresh.answers observations)[i]? = some (some true) ↔
        ∃ j, i = j + 1 ∧ observations[j]? = some (.idle true) ∧
          observations[i]? = some (.idle true)) ∧
    (∀ (before : List Observation) (n i : Nat), i < n →
      (fresh.answers (before ++ List.replicate (n + 1) (.idle true)))[before.length + i + 1]? =
        some (some true)) ∧
    ∀ (before rest : List Observation) (seen : Observation), seen ≠ .idle true →
      fresh.after (before ++ [seen]) = fresh ∧
        fresh.answers (before ++ seen :: rest) =
          fresh.answers (before ++ [seen]) ++ fresh.answers rest := by
  refine ⟨getElem?_answers_eq_true_iff, fun before n i inside => ?_,
    fun before rest seen other => ?_⟩
  · refine (getElem?_answers_eq_true_iff _ _).mpr ⟨before.length + i, rfl, ?_, ?_⟩
    · rw [List.getElem?_append_right (by omega), List.getElem?_replicate, if_pos (by omega)]
    · rw [List.getElem?_append_right (by omega), List.getElem?_replicate, if_pos (by omega)]
  · have anew : fresh.after (before ++ [seen]) = fresh := by
      rw [after_append]
      exact (observe_of_ne other).1
    refine ⟨anew, ?_⟩
    rw [List.append_cons, answers_append, anew]

/-- A row that is longer than a byte counts, and what a single poll in the middle does to it. -/
theorem stops_exactly_long :
    (fresh.answers (List.replicate 1000 (.idle true)))[999]? = some (some true) ∧
      fresh.answers (List.replicate 1000 (.idle true) ++ .idle false :: [.idle true, .idle true]) =
        fresh.answers (List.replicate 1000 (.idle true) ++ [.idle false]) ++
          [some false, some true] := by
  obtain ⟨-, goesOn, beginsAnew⟩ := stops_exactly
  exact ⟨goesOn [] 999 998 (by decide), (beginsAnew _ _ (.idle false) (by decide)).2⟩

end LoadSeries.DrainGuard

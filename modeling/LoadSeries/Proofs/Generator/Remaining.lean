import LoadSeries.Proofs.Generator.Draws

/-!
How many items a generator still gives, for any cadence, whether it passes its check or not. The end
of a user's samples is looked for behind each record, so that a user without samples gives one. What
is announced is therefore what is given, unless there are users and no samples.
-/
namespace LoadSeries

namespace Cadence

/-- The places of each user. -/
def stops (x : Cadence) : Nat := max x.samplesPerUser.toNat 1

def visits (x : Cadence) : Nat := userCount x.firstUser x.lastUser * x.stops

theorem stops_pos (x : Cadence) : 0 < x.stops :=
  Nat.lt_of_lt_of_le Nat.one_pos (Nat.le_max_right _ _)

end Cadence

namespace Cursor

theorem advance_stops (y : Cursor) (x : Cadence) :
    y.advance x.samplesPerUser.toNat = y.advance x.stops := by
  have same : x.samplesPerUser.toNat ≤ y.sample + 1 ↔ x.stops ≤ y.sample + 1 := by
    unfold Cadence.stops
    omega
  simp only [advance, same]

end Cursor

namespace Generator

/-- So many items are given by next calls, and none behind them. -/
inductive Yields : Generator → Nat → Prop
  | done {x : Generator} (none : x.next?.1 = none) : Yields x 0
  | item {x : Generator} {n : Nat} (some : x.next?.1.isSome = true) (rest : Yields x.next?.2 n) :
      Yields x (n + 1)

theorem Yields.unique {x : Generator} {m n : Nat} (yields : x.Yields m) (other : x.Yields n) :
    m = n := by
  induction yields generalizing n with
  | done none =>
    cases other with
    | done => rfl
    | item some => simp [none] at some
  | item some rest ih =>
    cases other with
    | done none => simp [none] at some
    | item _ rest' => rw [ih rest']

/-- The generator of a recipe stands at a place, counted from 0. -/
structure StandsAt (x : Generator) (recipe : Recipe) (k : Nat) : Prop where
  recipe_eq : x.recipe = recipe
  cursor : x.cursor = .atPlace recipe.cadence.stops k
  produced : x.produced = k
  within : k ≤ recipe.cadence.visits

variable {x : Generator} {recipe : Recipe} {k : Nat}

theorem standsAt_ofRecipe (recipe : Recipe) : (ofRecipe recipe).StandsAt recipe 0 where
  recipe_eq := rfl
  cursor := by simp [ofRecipe, Cursor.atPlace, Cursor.origin]
  produced := rfl
  within := Nat.zero_le _

namespace StandsAt

theorem user? (stands : x.StandsAt recipe k) :
    x.cursor.user? recipe.cadence.firstUser recipe.cadence.lastUser =
      if k < recipe.cadence.visits then
        some (Int32.ofInt (recipe.cadence.firstUser.toInt + (k / recipe.cadence.stops : Nat)))
      else none := by
  have positive := recipe.cadence.stops_pos
  have within : k / recipe.cadence.stops ≤
      userCount recipe.cadence.firstUser recipe.cadence.lastUser :=
    Nat.div_le_of_le_mul (by rw [Nat.mul_comm]; exact stands.within)
  rw [stands.cursor, Cursor.user?_eq within]
  simp only [Cursor.atPlace, Nat.div_lt_iff_lt_mul positive]
  rfl

theorem nextRecord_end (stands : x.StandsAt recipe recipe.cadence.visits) :
    x.nextRecord = (.ok none, x) := by
  have gone := stands.user?
  rw [if_neg (Nat.lt_irrefl _), ← stands.recipe_eq] at gone
  simp only [nextRecord, gone]

/-- No draw is without a value, so that every place has its record. -/
theorem nextRecord (stands : x.StandsAt recipe k) (more : k < recipe.cadence.visits) :
    ∃ record rest, x.nextRecord = (.ok (some record), rest) ∧ rest.StandsAt recipe (k + 1) := by
  obtain rfl := stands.recipe_eq
  have user := stands.user?
  rw [if_pos more] at user
  obtain ⟨values, drawn, -⟩ :=
    Random.exists_values_inRange x.recipe.key x.place x.recipe.catalog.size
  simp only [Generator.nextRecord, user, Recipe.record, drawn]
  refine ⟨_, _, rfl, rfl, ?_, congrArg (· + 1) stands.produced, more⟩
  simp only [Cursor.advance_stops, stands.cursor]
  exact Cursor.advance_atPlace x.recipe.cadence.stops_pos k

theorem advance_end (stands : x.StandsAt recipe recipe.cadence.visits) :
    x.advance = (.ok none, x) := by
  simp only [advance, stands.nextRecord_end]

theorem advance (stands : x.StandsAt recipe k) (more : k < recipe.cadence.visits) :
    ∃ record rest, x.advance = ((x.recipe.encode record).map some, rest) ∧
      rest.StandsAt recipe (k + 1) := by
  obtain ⟨record, rest, step, onward⟩ := stands.nextRecord more
  exact ⟨record, rest, by rw [Generator.advance, step], onward⟩

theorem next?_end (stands : x.StandsAt recipe recipe.cadence.visits) : x.next? = (none, x) := by
  simp only [next?, stands.advance_end]

theorem next? (stands : x.StandsAt recipe k) (more : k < recipe.cadence.visits) :
    ∃ item rest, x.next? = (some item, rest) ∧ rest.StandsAt recipe (k + 1) := by
  obtain ⟨record, rest, step, onward⟩ := stands.advance more
  refine ⟨x.recipe.encode record, rest, ?_, onward⟩
  rw [Generator.next?, step]
  cases x.recipe.encode record <;> rfl

theorem perform (stands : x.StandsAt recipe k) (call : Call) :
    ∃ k', (x.perform call).2.StandsAt recipe k' := by
  rcases Nat.lt_or_eq_of_le stands.within with more | rfl
  · cases call with
    | nextRecord =>
      obtain ⟨record, rest, step, onward⟩ := stands.nextRecord more
      exact ⟨k + 1, by rwa [Generator.perform, step]⟩
    | advance =>
      obtain ⟨record, rest, step, onward⟩ := stands.advance more
      exact ⟨k + 1, by rwa [Generator.perform, step]⟩
    | next =>
      obtain ⟨item, rest, step, onward⟩ := stands.next? more
      exact ⟨k + 1, by rwa [Generator.perform, step]⟩
    | sizeHint => exact ⟨k, stands⟩
  · refine ⟨recipe.cadence.visits, ?_⟩
    cases call with
    | nextRecord => rwa [Generator.perform, stands.nextRecord_end]
    | advance => rwa [Generator.perform, stands.advance_end]
    | next => rwa [Generator.perform, stands.next?_end]
    | sizeHint => exact stands

theorem after (stands : x.StandsAt recipe k) (calls : List Call) :
    ∃ k', (x.after calls).StandsAt recipe k' := by
  induction calls generalizing x k with
  | nil => exact ⟨k, stands⟩
  | cons call rest ih =>
    obtain ⟨k', onward⟩ := stands.perform call
    rw [after_cons]
    exact ih onward

theorem yields (stands : x.StandsAt recipe k) : x.Yields (recipe.cadence.visits - k) := by
  have within := stands.within
  generalize left : recipe.cadence.visits - k = n
  induction n generalizing x k with
  | zero =>
    obtain rfl : k = recipe.cadence.visits := by omega
    apply Yields.done
    rw [stands.next?_end]
  | succ n ih =>
    obtain ⟨item, rest, step, onward⟩ := stands.next? (by omega)
    apply Yields.item
    · rw [step]
      rfl
    · rw [step]
      exact ih onward (by omega) (by omega)

theorem sample_lt (stands : x.StandsAt recipe k) : x.cursor.sample < recipe.cadence.stops := by
  rw [stands.cursor]
  exact Nat.mod_lt k recipe.cadence.stops_pos

end StandsAt

end Generator

namespace Recipe

variable {x : Recipe} {y : Generator}

/-- The generator of a recipe behind some calls. -/
def Reaches (x : Recipe) (y : Generator) : Prop := ∃ calls, y = (Generator.ofRecipe x).after calls

/-- After any calls of its generator, what is announced is what then comes, from the start it is all
that the cadence counts, and wherever a record is given, the cursor is at a sample of the user. -/
structure Honoured (x : Recipe) : Prop where
  remaining : ∀ y, x.Reaches y → y.Yields y.remaining
  bounds : ∀ y, x.Reaches y → y.sizeBounds = (y.remaining, y.remaining)
  whole : (Generator.ofRecipe x).Yields x.cadence.totalRecords
  sample : ∀ y record rest, x.Reaches y → y.nextRecord = (.ok (some record), rest) →
    y.cursor.sample < x.cadence.samplesPerUser.toNat ∧
      rest.cursor.sample < x.cadence.samplesPerUser.toNat

theorem Reaches.exists_standsAt (reaches : x.Reaches y) : ∃ k, y.StandsAt x k := by
  obtain ⟨calls, rfl⟩ := reaches
  exact (Generator.standsAt_ofRecipe x).after calls

theorem Reaches.yields (reaches : x.Reaches y) : y.Yields (x.cadence.visits - y.produced) := by
  obtain ⟨k, stands⟩ := reaches.exists_standsAt
  rw [stands.produced]
  exact stands.yields

theorem Reaches.remaining_eq (reaches : x.Reaches y) :
    y.remaining = x.cadence.totalRecords - y.produced := by
  obtain ⟨k, stands⟩ := reaches.exists_standsAt
  rw [Generator.remaining, stands.recipe_eq]

theorem yields_visits (x : Recipe) : (Generator.ofRecipe x).Yields x.cadence.visits :=
  (Generator.standsAt_ofRecipe x).yields

theorem honoured_of_visits (visits : x.cadence.visits = x.cadence.totalRecords)
    (sample : ∀ y record rest, x.Reaches y → y.nextRecord = (.ok (some record), rest) →
      y.cursor.sample < x.cadence.samplesPerUser.toNat ∧
        rest.cursor.sample < x.cadence.samplesPerUser.toNat) : x.Honoured where
  remaining := by
    intro y reaches
    rw [reaches.remaining_eq, ← visits]
    exact reaches.yields
  bounds := fun _ _ => rfl
  whole := by
    rw [← visits]
    exact x.yields_visits
  sample := sample

theorem honoured_of_samples (samples : 0 < x.cadence.samplesPerUser.toNat) : x.Honoured := by
  have stops : x.cadence.stops = x.cadence.samplesPerUser.toNat := Nat.max_eq_left samples
  apply honoured_of_visits
  · rw [Cadence.visits, stops, Cadence.totalRecords]
  · intro y record rest reaches given
    obtain ⟨k, stands⟩ := reaches.exists_standsAt
    obtain ⟨k', onward⟩ := stands.perform .nextRecord
    rw [Generator.perform, given] at onward
    rw [← stops]
    exact ⟨stands.sample_lt, onward.sample_lt⟩

theorem honoured_of_inverted (inverted : x.cadence.lastUser < x.cadence.firstUser) :
    x.Honoured := by
  have none : userCount x.cadence.firstUser x.cadence.lastUser = 0 := by
    rw [Int32.lt_iff_toInt_lt] at inverted
    unfold userCount
    omega
  have visits : x.cadence.visits = 0 := by rw [Cadence.visits, none, Nat.zero_mul]
  apply honoured_of_visits
  · rw [visits, Cadence.totalRecords, none, Nat.zero_mul]
  · intro y record rest reaches given
    obtain ⟨k, stands⟩ := reaches.exists_standsAt
    obtain rfl : k = x.cadence.visits := by
      have within := stands.within
      omega
    rw [stands.nextRecord_end] at given
    cases given

/-- Users without samples are counted as having no records, and each of them gives one. -/
theorem not_honoured (samples : x.cadence.samplesPerUser.toNat = 0)
    (users : ¬ x.cadence.lastUser < x.cadence.firstUser) : ¬ x.Honoured := by
  intro honoured
  have same := honoured.whole.unique x.yields_visits
  rw [Int32.lt_iff_toInt_lt] at users
  have some : 0 < userCount x.cadence.firstUser x.cadence.lastUser := by
    unfold userCount
    omega
  rw [Cadence.totalRecords, samples, Nat.mul_zero, Cadence.visits] at same
  exact absurd same (Nat.mul_pos some x.cadence.stops_pos).ne

/-- A generator gives a record for each sample of each user, and one for each user if there are no
samples. So it gives what it has announced, at every point of every run, if and only if there are
samples or no users at all. -/
theorem honoured_iff (x : Recipe) :
    (∀ y, x.Reaches y → y.Yields
      (userCount x.cadence.firstUser x.cadence.lastUser * max x.cadence.samplesPerUser.toNat 1 -
        y.produced)) ∧
    (x.Honoured ↔
      0 < x.cadence.samplesPerUser.toNat ∨ x.cadence.lastUser < x.cadence.firstUser) := by
  refine ⟨fun y reaches => reaches.yields, ?_, ?_⟩
  · intro honoured
    by_contra neither
    obtain ⟨samples, users⟩ := not_or.mp neither
    exact not_honoured (by omega) users honoured
  · rintro (samples | inverted)
    · exact honoured_of_samples samples
    · exact honoured_of_inverted inverted

theorem honoured_iff_small : small.Honoured ∧ (Generator.ofRecipe small).Yields 4 := by
  obtain ⟨yields, honoured⟩ := honoured_iff small
  have start : small.Reaches (Generator.ofRecipe small) := ⟨[], rfl⟩
  exact ⟨honoured.mpr (.inl (by decide)), yields _ start⟩

/-- A user without samples. -/
def sampleless : Recipe := { small with cadence := ⟨0, 0, 0, 0, 1000⟩ }

theorem gives_unannounced :
    (Generator.ofRecipe sampleless).sizeBounds = (0, 0) ∧
      (Generator.ofRecipe sampleless).next?.1 = some (.ok (Text.stringBytes
        "0,0,gd,zhuhai,TMR,00000,1,line_0,area_0,30317.36")) ∧
      ¬ sampleless.Honoured :=
  ⟨rfl, by decide +kernel, not_honoured rfl (by decide)⟩

end Recipe

end LoadSeries

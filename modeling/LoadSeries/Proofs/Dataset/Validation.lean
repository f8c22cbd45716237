import LoadSeries.Dataset.Schema
import LoadSeries.Proofs.Dataset.Cadence
import LoadSeries.Proofs.Text.Numerals

/-!
What a data set description is valid for: fifteen requirements, in the order in which they are
checked.
-/
namespace LoadSeries

namespace Interval

theorem unit_pos (text : List Char) : 0 < (splitUnit text).2 := by
  unfold splitUnit
  split <;> simp

theorem pos_of_millis {s : String} {interval : Int64} (measured : millis s = .ok interval) :
    0 < interval.toInt := by
  unfold millis trimmedMillis at measured
  split at measured
  · cases measured
  have unit := unit_pos (Text.trim s.toList)
  generalize splitUnit (Text.trim s.toList) = parts at measured unit
  simp only at measured
  split at measured
  · cases measured
  · rename_i value _
    split at measured
    · cases measured
    · rename_i positive
      have product : 0 < value * parts.2 := Int.mul_pos (by omega) (by omega)
      split at measured
      · cases measured
      · cases measured
        rw [Int64.toInt_ofInt_of_le (by omega) (by omega)]
        exact product

end Interval

namespace Catalog

/-- A name that stands further in front already, where none before it does so. -/
def FirstRepeat (names : List String) (name : String) : Prop :=
  ∃ before after, names = before ++ name :: after ∧ before.Nodup ∧ name ∈ before

/-- What is checked of the names of fields. -/
def requirements (names : List String) : List Requirement :=
  [.of (names ≠ []) .emptyFieldCatalog,
    ⟨names.Nodup, fun error => ∃ name, FirstRepeat names name ∧ error = .duplicateField name⟩]

variable {seen names : List String} {name : String}

theorem firstRepeat?_eq_none : firstRepeat? seen names = none ↔
    names.Nodup ∧ ∀ name ∈ names, name ∉ seen := by
  induction names generalizing seen with
  | nil => simp [firstRepeat?]
  | cons first rest ih =>
    unfold firstRepeat?
    split
    · rename_i again
      simp [again]
    · rename_i fresh
      rw [ih, List.nodup_cons, List.forall_mem_cons]
      simp only [List.mem_cons, not_or]
      constructor
      · rintro ⟨distinct, apart⟩
        exact ⟨⟨fun member => (apart first member).1 rfl, distinct⟩, fresh,
          fun name member => (apart name member).2⟩
      · rintro ⟨⟨absent, distinct⟩, -, apart⟩
        refine ⟨distinct, fun name member => ⟨?_, apart name member⟩⟩
        rintro rfl
        exact absent member

theorem firstRepeat?_eq_some : firstRepeat? seen names = some name ↔
    ∃ before after, names = before ++ name :: after ∧ before.Nodup ∧
      (∀ other ∈ before, other ∉ seen) ∧ (name ∈ seen ∨ name ∈ before) := by
  induction names generalizing seen with
  | nil => simp [firstRepeat?]
  | cons first rest ih =>
    unfold firstRepeat?
    split
    · rename_i again
      constructor
      · rintro ⟨⟩
        exact ⟨[], rest, rfl, List.nodup_nil, by simp, .inl again⟩
      · rintro ⟨before, after, same, -, apart, -⟩
        cases before with
        | nil => rw [(List.cons.inj same).1]
        | cons other before =>
          obtain ⟨rfl, -⟩ := List.cons.inj same
          exact absurd again (apart _ List.mem_cons_self)
    · rename_i fresh
      rw [ih]
      constructor
      · rintro ⟨before, after, rfl, distinct, apart, member⟩
        refine ⟨first :: before, after, rfl, ?_, ?_, ?_⟩
        · exact List.nodup_cons.mpr ⟨fun inside => apart first inside List.mem_cons_self, distinct⟩
        · refine List.forall_mem_cons.mpr ⟨fresh, fun other inside seen => ?_⟩
          exact apart other inside (List.mem_cons_of_mem _ seen)
        · simp only [List.mem_cons] at member ⊢
          tauto
      · rintro ⟨before, after, same, distinct, apart, member⟩
        cases before with
        | nil =>
          obtain ⟨rfl, -⟩ := List.cons.inj same
          simp [fresh] at member
        | cons other before =>
          obtain ⟨rfl, rfl⟩ := List.cons.inj same
          obtain ⟨absent, distinct⟩ := List.nodup_cons.mp distinct
          obtain ⟨-, apart⟩ := List.forall_mem_cons.mp apart
          refine ⟨before, after, rfl, distinct, fun other inside => ?_, ?_⟩
          · simp only [List.mem_cons, not_or]
            exact ⟨fun same => absent (same ▸ inside), apart other inside⟩
          · simp only [List.mem_cons] at member ⊢
            tauto

theorem firstRepeat_iff : FirstRepeat names name ↔ firstRepeat? [] names = some name := by
  rw [firstRepeat?_eq_some]
  simp [FirstRepeat]

theorem requirements_govern (names : List String) :
    Governs (requirements names) (ofNames names) := by
  have distinct : firstRepeat? [] names = none ↔ names.Nodup := by simp [firstRepeat?_eq_none]
  unfold ofNames
  refine .guarded (by simp) fun _ => governs_single ?_ fun error => ?_
  · rw [← distinct]
    cases firstRepeat? [] names <;> simp
  · simp only [← distinct, firstRepeat_iff]
    cases firstRepeat? [] names <;> simp [eq_comm]

end Catalog

namespace Tables

/-- What is checked of lookup tables: that no lookup is in vain, and the width of the number. -/
def requirements (x : Tables) : List Requirement :=
  [.of (x.provinces ≠ []) (.emptyDimensionTable "provinces"),
    .of (x.districts ≠ []) (.emptyDimensionTable "districts"),
    .of (x.systems ≠ []) (.emptyDimensionTable "systems"),
    .of (x.alarmTypes ≠ []) (.emptyDimensionTable "alarm_types"),
    .of (x.lineCount ≠ 0) (.emptyDimensionTable "line_count"),
    .of (x.areaCount ≠ 0) (.emptyDimensionTable "area_count"),
    .of (1 ≤ x.mpidWidth.toNat ∧ x.mpidWidth.toNat ≤ 9) (.invalidMpidWidth x.mpidWidth.toNat)]

/-- A check behind that of some sizes. -/
def behindSizes (sizes : List (String × Nat)) (x : Except ConfigError Unit) :
    Except ConfigError Unit :=
  match sizes.find? (fun entry => entry.2 == 0) with
  | some (name, _) => .error (.emptyDimensionTable name)
  | none => x

variable {row : List Requirement} {rest : List (String × Nat)} {x : Except ConfigError Unit}

theorem governs_behindSizes_cons {holds : Prop} {name : String} {size : Nat}
    (same : size = 0 ↔ ¬ holds) (governs : Governs row (behindSizes rest x)) :
    Governs (.of holds (.emptyDimensionTable name) :: row)
      (behindSizes ((name, size) :: rest) x) := by
  have first : behindSizes ((name, size) :: rest) x =
      if size = 0 then .error (.emptyDimensionTable name) else behindSizes rest x := by
    unfold behindSizes
    rw [List.find?_cons]
    by_cases zero : size = 0
    · simp [zero]
    · rw [if_neg zero, beq_false_of_ne zero]
  rw [first]
  exact .guarded same fun _ => governs

theorem requirements_govern (x : Tables) : Governs x.requirements x.check := by
  have counted (n : UInt32) : n.toNat = 0 ↔ ¬ n ≠ 0 := by
    rw [not_not, ← UInt32.toNat_inj]
    rfl
  refine governs_behindSizes_cons (by simp) <| governs_behindSizes_cons (by simp) <|
    governs_behindSizes_cons (by simp) <| governs_behindSizes_cons (by simp) <|
    governs_behindSizes_cons (counted _) <| governs_behindSizes_cons (counted _) ?_
  change Governs _ (ite _ _ _)
  rw [← ite_not]
  exact .guarded Iff.rfl fun _ => governs_ok ()

end Tables

namespace Schema

/-- The cadence of a description whose start and interval have been read. -/
def cadenceOf (x : Schema) (start interval : Int64) : Cadence where
  firstUser := x.users.first
  lastUser := x.users.last
  samplesPerUser := x.samplesPerUser
  startMillis := start
  intervalMillis := interval

/-- The time stamp of the last sample, if there is a time axis, can be computed in words. -/
def LastSampleFits (x : Schema) : Prop :=
  ∀ start interval, x.startTime.toMillis = .ok start → Interval.millis x.interval = .ok interval →
    (x.cadenceOf start interval).Fits (x.samplesPerUser.toNat - 1)

def requirements (x : Schema) : List Requirement :=
  [.of (x.version = 1) (.unsupportedVersion x.version.toNat),
    .succeeds x.startTime.toMillis,
    .succeeds (Interval.millis x.interval),
    .of (0 ≤ x.users.first.toInt ∧ x.users.first.toInt ≤ x.users.last.toInt)
      (.invalidUserRange x.users.first.toInt x.users.last.toInt),
    .of (0 < x.samplesPerUser.toNat) .noSamples,
    .of x.LastSampleFits (.timestampOverflow (x.samplesPerUser.toNat - 1))] ++
  (Catalog.requirements x.fields ++ x.tables.requirements)

variable {x : Schema}

/-- Of what is checked of a cadence, the interval has been found positive when it was read. -/
theorem governs_cadenceOf {start interval : Int64} (started : x.startTime.toMillis = .ok start)
    (measured : Interval.millis x.interval = .ok interval) :
    Governs [.of (0 ≤ x.users.first.toInt ∧ x.users.first.toInt ≤ x.users.last.toInt)
        (.invalidUserRange x.users.first.toInt x.users.last.toInt),
      .of (0 < x.samplesPerUser.toNat) .noSamples,
      .of x.LastSampleFits (.timestampOverflow (x.samplesPerUser.toNat - 1))]
      (x.cadenceOf start interval).checked := by
  have fits : x.LastSampleFits =
      (x.cadenceOf start interval).Fits (x.samplesPerUser.toNat - 1) := by
    apply propext
    constructor
    · intro fits
      exact fits start interval started measured
    · intro fits start' interval' started' measured'
      obtain rfl := Except.ok.inj (started'.symm.trans started)
      obtain rfl := Except.ok.inj (measured'.symm.trans measured)
      exact fits
  rw [fits]
  have positive : (x.cadenceOf start interval).intervalRequirement.holds :=
    Interval.pos_of_millis measured
  exact (x.cadenceOf start interval).requirements_govern.drop [_, _] positive

theorem requirements_govern (x : Schema) : Governs x.requirements x.validate := by
  have axis := (governs_succeeds x.startTime.toMillis).bind fun start started =>
    (governs_succeeds (Interval.millis x.interval)).bind fun interval measured =>
      governs_cadenceOf started measured
  have settings := axis.bind fun _ _ => (Catalog.requirements_govern x.fields).bind
    fun _ _ => x.tables.requirements_govern
  exact .guarded Iff.rfl fun _ => settings

end Schema
end LoadSeries

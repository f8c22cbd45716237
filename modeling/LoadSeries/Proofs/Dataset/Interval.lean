import LoadSeries.Proofs.Dataset.Validation
import LoadSeries.Proofs.Text.Blank
import LoadSeries.Proofs.Text.Integers

/-!
What an interval is read from: a whole number that is not 0, white space, and a unit, between white
space on both sides. Units overlap, and of those in which a text ends the longest counts.
-/
namespace LoadSeries
open Text

namespace Text

variable {text : List Char} {n : Int} {c : Char}

theorem isBlank_of_isDigit (digit : isDigit c = true) : isBlank c = false := by
  simp only [isDigit, isBlank, Bool.and_eq_true, decide_eq_true_eq, Bool.or_eq_false_iff,
    Bool.and_eq_false_iff, decide_eq_false_iff_not, beq_eq_false_iff_ne] at digit ⊢
  omega

theorem Denotes.trimmed (denotes : Denotes text n) : Trimmed text where
  first := by
    intro d first
    cases denotes with
    | unsigned digits => exact isBlank_of_isDigit (digits.digit d (List.mem_of_mem_head? first))
    | plus => cases first; rfl
    | minus => cases first; rfl
  last := by
    intro d last
    exact isBlank_of_isDigit (denotes.isDigit_last d last)

end Text

namespace Interval

/-- The units as they are written, with their milliseconds. -/
def units : List (List Char × Nat) :=
  [(['m', 's'], 1), (['s'], 1000), (['m'], 60000), (['h'], 3600000), ([], 1000)]

/-- The text is digits that stand for a number, with a plus in front or without, white space and a
unit of so many milliseconds. -/
def Written (text : List Char) (n factor : Nat) : Prop :=
  ∃ plus number gap unit, text = plus ++ number ++ gap ++ unit ∧ (plus = [] ∨ plus = ['+']) ∧
    AreDigits number ∧ digitsValue number = n ∧ AllBlank gap ∧ (unit, factor) ∈ units

/-- The same with any integer. -/
def Reads (text : List Char) (n : Int) (factor : Nat) : Prop :=
  ∃ number gap unit, text = number ++ gap ++ unit ∧ Denotes number n ∧ AllBlank gap ∧
    (unit, factor) ∈ units

/-- The text is cut in front of the longest unit in which it ends. -/
inductive CutAtUnit : List Char → List Char → Nat → Prop
  | milliseconds (front : List Char) : CutAtUnit (front ++ ['m', 's']) front 1
  | seconds {front : List Char} (other : front.getLast? ≠ some 'm') :
      CutAtUnit (front ++ ['s']) front 1000
  | minutes (front : List Char) : CutAtUnit (front ++ ['m']) front 60000
  | hours (front : List Char) : CutAtUnit (front ++ ['h']) front 3600000
  | bare {text : List Char} (other : ∀ c ∈ text.getLast?, c ≠ 's' ∧ c ≠ 'm' ∧ c ≠ 'h') :
      CutAtUnit text text 1000

variable {text front number gap : List Char} {n m : Int} {factor factor' : Nat}

theorem cutAtUnit_splitUnit (text : List Char) :
    CutAtUnit text (splitUnit text).1 (splitUnit text).2 := by
  unfold splitUnit
  split
  · rename_i rest ends
    rw [List.reverse_eq_iff.mp ends, List.reverse_cons, List.reverse_cons, List.append_assoc]
    exact .milliseconds _
  · rename_i rest ends
    rw [List.reverse_eq_iff.mp ends, List.reverse_cons]
    exact .hours _
  · rename_i rest ends
    rw [List.reverse_eq_iff.mp ends, List.reverse_cons]
    exact .minutes _
  · rename_i rest other ends
    rw [List.reverse_eq_iff.mp ends, List.reverse_cons]
    apply CutAtUnit.seconds
    rw [List.getLast?_reverse]
    intro last
    obtain ⟨rest', same⟩ := List.head?_eq_some_iff.mp last
    exact other rest' same
  · rename_i hours minutes seconds
    apply CutAtUnit.bare
    intro c last
    rw [List.getLast?_eq_head?_reverse] at last
    obtain ⟨rest', same⟩ := List.head?_eq_some_iff.mp last
    refine ⟨?_, ?_, ?_⟩
    · rintro rfl
      exact seconds _ same
    · rintro rfl
      exact minutes _ same
    · rintro rfl
      exact hours _ same

theorem CutAtUnit.splitUnit_eq (cut : CutAtUnit text front factor) :
    splitUnit text = (front, factor) := by
  cases cut with
  | milliseconds => simp [splitUnit]
  | seconds other =>
    rcases List.eq_nil_or_concat front with rfl | ⟨rest, c, rfl⟩
    · rfl
    · have differs : c ≠ 'm' := by simpa using other
      simp [splitUnit, differs]
  | minutes => simp [splitUnit]
  | hours => simp [splitUnit]
  | bare other =>
    rcases List.eq_nil_or_concat text with rfl | ⟨rest, c, rfl⟩
    · rfl
    · obtain ⟨second, minute, hour⟩ := other c (by simp)
      simp [splitUnit, second, minute, hour]

theorem CutAtUnit.exists_unit (cut : CutAtUnit text front factor) :
    ∃ unit, (unit, factor) ∈ units ∧ text = front ++ unit := by
  cases cut with
  | milliseconds => exact ⟨['m', 's'], by simp [units], rfl⟩
  | seconds => exact ⟨['s'], by simp [units], rfl⟩
  | minutes => exact ⟨['m'], by simp [units], rfl⟩
  | hours => exact ⟨['h'], by simp [units], rfl⟩
  | bare => exact ⟨[], by simp [units], (List.append_nil text).symm⟩

/-- A number, or white space behind it, does not end in what could be taken for a unit. -/
theorem ne_unit_of_last (denotes : Denotes number n) (blank : AllBlank gap) :
    ∀ c ∈ (number ++ gap).getLast?, c ≠ 's' ∧ c ≠ 'm' ∧ c ≠ 'h' := by
  intro c last
  have either : isDigit c = true ∨ isBlank c = true := by
    rw [List.getLast?_append] at last
    rcases Option.or_eq_some_iff.mp last with inGap | ⟨-, inNumber⟩
    · exact .inr (blank c (List.mem_of_getLast? inGap))
    · exact .inl (denotes.isDigit_last c inNumber)
  refine ⟨?_, ?_, ?_⟩ <;> rintro rfl <;> revert either <;> decide

theorem cutAtUnit_append (denotes : Denotes number n) (blank : AllBlank gap) {unit : List Char}
    (member : (unit, factor) ∈ units) :
    CutAtUnit (number ++ gap ++ unit) (number ++ gap) factor := by
  have last := ne_unit_of_last denotes blank
  simp only [units, List.mem_cons, Prod.mk.injEq, List.not_mem_nil, or_false] at member
  rcases member with ⟨rfl, rfl⟩ | ⟨rfl, rfl⟩ | ⟨rfl, rfl⟩ | ⟨rfl, rfl⟩ | ⟨rfl, rfl⟩
  · exact .milliseconds _
  · apply CutAtUnit.seconds
    intro minute
    exact (last 'm' minute).2.1 rfl
  · exact .minutes _
  · exact .hours _
  · rw [List.append_nil]
    exact .bare last

theorem reads_iff (trimmed : Trimmed text) : Reads text n factor ↔
    Denotes (trim (splitUnit text).1) n ∧ (splitUnit text).2 = factor := by
  constructor
  · rintro ⟨number, gap, unit, rfl, denotes, blank, member⟩
    have bare : AllBlank [] := by
      intro c member
      cases member
    have number : trim (number ++ gap) = number := trim_append denotes.trimmed bare blank
    rw [(cutAtUnit_append denotes blank member).splitUnit_eq, number]
    exact ⟨denotes, rfl⟩
  · rintro ⟨denotes, rfl⟩
    obtain ⟨unit, member, same⟩ := (cutAtUnit_splitUnit text).exists_unit
    obtain ⟨-, before, gap, blank, behind, parts⟩ :=
      trim_eq_iff.mp (Eq.refl (trim (splitUnit text).1))
    -- The text is trimmed, so that there is no white space in front of the number.
    have none : before = [] := by
      cases before with
      | nil => rfl
      | cons c rest =>
        have first : isBlank c = false := by
          apply trimmed.first c
          rw [same, parts]
          rfl
        rw [blank c List.mem_cons_self] at first
        cases first
    rw [none, List.nil_append] at parts
    refine ⟨trim (splitUnit text).1, gap, unit, ?_, denotes, behind, member⟩
    rw [← parts, ← same]

theorem Reads.unique (trimmed : Trimmed text) (reads : Reads text n factor)
    (other : Reads text m factor') : m = n ∧ factor' = factor := by
  rw [reads_iff trimmed] at reads other
  exact ⟨other.1.unique reads.1, other.2.symm.trans reads.2⟩

theorem written_iff {n : Nat} (positive : 0 < n) :
    Written text n factor ↔ Reads text n factor := by
  constructor
  · rintro ⟨plus, number, gap, unit, rfl, sign, digits, rfl, blank, member⟩
    refine ⟨plus ++ number, gap, unit, rfl, ?_, blank, member⟩
    rcases sign with rfl | rfl
    · exact .unsigned digits
    · exact .plus digits
  · rintro ⟨number, gap, unit, same, denotes, blank, member⟩
    generalize value : (n : Int) = z at denotes
    cases denotes with
    | unsigned digits =>
      exact ⟨[], number, gap, unit, same, .inl rfl, digits, by omega, blank, member⟩
    | @plus number digits =>
      exact ⟨['+'], number, gap, unit, same, .inr rfl, digits, by omega, blank, member⟩
    | minus => omega

/-- The longest unit is cut off, and the integer in front of it cannot be read for this cause. -/
def Unread (text : List Char) (cause : IntegerError) : Prop :=
  ∃ front factor, CutAtUnit text front factor ∧
    Unreadable 0x8000000000000000 0x7fffffffffffffff (trim front) cause

theorem unread_iff {cause : IntegerError} :
    Unread text cause ↔ readInt64 (trim (splitUnit text).1) = .error cause := by
  constructor
  · rintro ⟨front, factor, cut, unreadable⟩
    rw [cut.splitUnit_eq]
    exact readInteger_of_unreadable unreadable
  · intro failed
    exact ⟨_, _, cutAtUnit_splitUnit text, readInteger_eq_error_iff.mp failed⟩

theorem reads_word_iff (trimmed : Trimmed text) : Reads text n factor ∧ Cadence.IsInt64 n ↔
    readInt64 (trim (splitUnit text).1) = .ok n ∧ (splitUnit text).2 = factor := by
  have word : Cadence.IsInt64 n ↔
      -((0x8000000000000000 : Nat) : Int) ≤ n ∧ n ≤ (0x7fffffffffffffff : Nat) := by
    unfold Cadence.IsInt64
    omega
  rw [reads_iff trimmed, word, readInt64, readInteger_eq_ok_iff]
  tauto

theorem trimmedMillis_of_reads (trimmed : Trimmed text) (reads : Reads text n factor)
    (word : Cadence.IsInt64 n) : trimmedMillis text =
      if n ≤ 0 then .error (invalid text "interval must be positive")
      else if 0x7fffffffffffffff < n * factor then
        .error (invalid text "interval overflows i64 milliseconds")
      else .ok (Int64.ofInt (n * factor)) := by
  obtain ⟨read, unit⟩ := (reads_word_iff trimmed).mp ⟨reads, word⟩
  have empty : text.isEmpty = false := by
    cases text with
    | nil => cases read
    | cons c rest => rfl
  simp [trimmedMillis, empty, read, unit]

theorem trimmedMillis_of_unread {cause : IntegerError} (nonempty : text ≠ [])
    (unread : Unread text cause) : trimmedMillis text = .error (invalid text cause.message) := by
  have empty : text.isEmpty = false := List.isEmpty_eq_false_iff.mpr nonempty
  simp [trimmedMillis, empty, unread_iff.mp unread]

/-- What is checked of a trimmed text. -/
def requirements (text : List Char) : List Requirement :=
  [.of (text ≠ []) (invalid text "empty interval string"),
    ⟨∃ n factor, Reads text n factor ∧ Cadence.IsInt64 n,
      fun error => ∃ cause, Unread text cause ∧ error = invalid text cause.message⟩,
    .of (∃ n factor, Reads text n factor ∧ 0 < n) (invalid text "interval must be positive"),
    .of (∃ n factor, Reads text n factor ∧ n * factor ≤ 0x7fffffffffffffff)
      (invalid text "interval overflows i64 milliseconds")]

theorem requirements_govern (trimmed : Trimmed text) :
    Governs (requirements text) (trimmedMillis text) := by
  by_cases nonempty : text = []
  · subst nonempty
    apply governs_error
    · simp [Requirement.of]
    · intro e
      rfl
  refine .cons_of_holds nonempty ?_
  cases read : readInt64 (trim (splitUnit text).1) with
  | error cause =>
    have unread {cause' : IntegerError} : Unread text cause' ↔ cause' = cause := by
      rw [unread_iff, read, Except.error.injEq, eq_comm]
    rw [trimmedMillis_of_unread nonempty (unread.mpr rfl)]
    apply governs_error
    · rintro ⟨n, factor, readable⟩
      rw [reads_word_iff trimmed, read] at readable
      cases readable.1
    · intro e
      simp [unread]
  | ok n =>
    obtain ⟨reads, word⟩ := (reads_word_iff trimmed).mpr ⟨read, rfl⟩
    have unique {m : Int} {factor : Nat} (other : Reads text m factor) :
        m = n ∧ factor = (splitUnit text).2 := reads.unique trimmed other
    rw [trimmedMillis_of_reads trimmed reads word]
    refine .cons_of_holds ⟨n, _, reads, word⟩ ?_
    refine .guarded ?_ fun positive => .guarded ?_ fun fits => governs_ok _
    · rw [← Int.not_lt, not_iff_not]
      constructor
      · intro positive
        exact ⟨n, _, reads, positive⟩
      · rintro ⟨m, factor, other, positive⟩
        rwa [(unique other).1] at positive
    · rw [← Int.not_le, not_iff_not]
      constructor
      · intro fits
        exact ⟨n, _, reads, fits⟩
      · rintro ⟨m, factor, other, fits⟩
        rwa [(unique other).1, (unique other).2] at fits

theorem Reads.factor_pos (reads : Reads text n factor) : 0 < factor := by
  obtain ⟨-, -, unit, -, -, -, member⟩ := reads
  simp only [units, List.mem_cons, Prod.mk.injEq, List.not_mem_nil, or_false] at member
  omega

theorem trimmedMillis_eq_ok_iff (trimmed : Trimmed text) {interval : Int64} :
    trimmedMillis text = .ok interval ↔ ∃ n factor, Written text n factor ∧ 1 ≤ n ∧
      n * factor ≤ 2 ^ 63 - 1 ∧ interval.toInt = n * factor := by
  constructor
  · intro measured
    have holds := (requirements_govern trimmed).passes.mp ⟨interval, measured⟩
    simp only [requirements, Requirement.of, List.forall_mem_cons] at holds
    obtain ⟨-, ⟨z, factor, reads, word⟩, ⟨_, _, second, positive⟩, ⟨_, _, third, fits⟩, -⟩ := holds
    rw [(reads.unique trimmed second).1] at positive
    rw [(reads.unique trimmed third).1, (reads.unique trimmed third).2] at fits
    obtain ⟨n, rfl⟩ := Int.eq_ofNat_of_zero_le positive.le
    rw [trimmedMillis_of_reads trimmed reads word, if_neg positive.not_ge, if_neg fits.not_gt]
      at measured
    obtain rfl := Except.ok.inj measured
    have product : 0 < (n : Int) * factor :=
      Int.mul_pos positive (Int.natCast_pos.mpr reads.factor_pos)
    refine ⟨n, _, (written_iff (by omega)).mpr reads, by omega, by omega, ?_⟩
    exact Int64.toInt_ofInt_of_le (by omega) (by omega)
  · rintro ⟨n, factor, written, positive, fits, same⟩
    have reads := (written_iff positive).mp written
    have least : n * 1 ≤ n * factor := Nat.mul_le_mul_left n reads.factor_pos
    have word : Cadence.IsInt64 n := ⟨by omega, by omega⟩
    rw [trimmedMillis_of_reads trimmed reads word, if_neg (by omega), if_neg (by omega), ← same,
      Int64.ofInt_toInt]

/-- A cadence is not refused for its interval if that has been read from a text. -/
theorem checked_ne_of_millis {s : String} {x : Cadence}
    (measured : millis s = .ok x.intervalMillis) (value reason : String) :
    x.checked ≠ .error (.invalidInterval value reason) := by
  intro refused
  have positive : x.intervalRequirement.holds := pos_of_millis measured
  have failure := ((x.requirements_govern.drop [_, _] positive).fails _).mp refused
  simp [firstFailure_cons, not_firstFailure_nil, Cadence.usersRequirement,
    Cadence.samplesRequirement, Cadence.lastSampleRequirement, Requirement.of] at failure

theorem toMillis_ne (x : StartTime) (value reason : String) :
    x.toMillis ≠ .error (.invalidInterval value reason) := by
  cases x with
  | millis => simp [StartTime.toMillis]
  | text s =>
    simp only [StartTime.toMillis, StartTime.textMillis]
    split
    · simp
    · split <;> simp

/-- An interval is accepted if and only if it is written as a positive number and a unit that make
no more milliseconds than a word holds, and that many they are. Else the trimmed text is refused for
the first requirement that it does not meet. So intervals are positive, and of a description nothing
but the text of its interval is ever refused as an interval. -/
theorem millis_exactly (s : String) :
    (∀ interval, millis s = .ok interval ↔ ∃ n factor, Written (trim s.toList) n factor ∧ 1 ≤ n ∧
      n * factor ≤ 2 ^ 63 - 1 ∧ interval.toInt = n * factor) ∧
    (∀ error, millis s = .error error ↔ FirstFailure error (requirements (trim s.toList))) ∧
    (∀ interval, millis s = .ok interval → 0 < interval.toInt ∧
      ∀ x : Cadence, x.intervalMillis = interval → ∀ value reason,
        x.checked ≠ .error (.invalidInterval value reason)) ∧
    ∀ x : Schema, x.interval = s → ∀ value reason,
      x.cadence = .error (.invalidInterval value reason) →
        millis s = .error (.invalidInterval value reason) := by
  have trimmed := trimmed_trim s.toList
  refine ⟨fun interval => trimmedMillis_eq_ok_iff trimmed, (requirements_govern trimmed).fails,
    ?_, ?_⟩
  · intro interval measured
    refine ⟨pos_of_millis measured, ?_⟩
    rintro x rfl value reason
    exact checked_ne_of_millis measured value reason
  · rintro x rfl value reason refused
    unfold Schema.cadence at refused
    cases started : x.startTime.toMillis with
    | error e =>
      rw [started] at refused
      obtain rfl := Except.error.inj refused
      exact absurd started (toMillis_ne x.startTime value reason)
    | ok start =>
      cases measured : millis x.interval with
      | error e =>
        rw [started, measured] at refused
        exact congrArg Except.error (Except.error.inj refused)
      | ok interval =>
        rw [started, measured] at refused
        exact absurd refused (checked_ne_of_millis measured value reason)

/-- One sample of one user, at some interval. -/
def single (interval : String) : Schema where
  version := 1
  seed := none
  metric := Schema.standardMetric
  users := ⟨0, 0⟩
  samplesPerUser := 1
  startTime := .millis 0
  interval
  fields := ["voltage"]
  tables := .standard

theorem millis_exactly_spaced :
    Written (trim " +0050 ms".toList) 50 1 ∧ millis " +0050 ms" = .ok 50 ∧
      (∀ value reason, (⟨0, 9, 4, 0, 50⟩ : Cadence).checked ≠
        .error (.invalidInterval value reason)) ∧
      FirstFailure (.invalidInterval "9223372036854775807h" "interval overflows i64 milliseconds")
        (requirements (trim "9223372036854775807h".toList)) ∧
      (single "-5 m").cadence = .error (.invalidInterval "-5 m" "interval must be positive") ∧
      millis "-5 m" = .error (.invalidInterval "-5 m" "interval must be positive") := by
  obtain ⟨accepts, -, positive, -⟩ := millis_exactly " +0050 ms"
  obtain ⟨-, refuses, -⟩ := millis_exactly "9223372036854775807h"
  obtain ⟨-, -, -, blames⟩ := millis_exactly "-5 m"
  have text : trim " +0050 ms".toList = ['+'] ++ ['0', '0', '5', '0'] ++ [' '] ++ ['m', 's'] := by
    decide +kernel
  have written : Written (trim " +0050 ms".toList) 50 1 := by
    have digits : AreDigits ['0', '0', '5', '0'] := ⟨by simp, by simp [isDigit]⟩
    rw [text]
    exact ⟨_, _, _, _, rfl, .inr rfl, digits, rfl, by simp [AllBlank, isBlank], by simp [units]⟩
  have measured : millis " +0050 ms" = .ok 50 :=
    (accepts 50).mpr ⟨50, 1, written, by norm_num, by norm_num, rfl⟩
  have refused : (single "-5 m").cadence =
      .error (.invalidInterval "-5 m" "interval must be positive") := by
    decide +kernel
  refine ⟨written, measured, ?_, (refuses _).mp (by decide +kernel), refused,
    blames (single "-5 m") rfl _ _ refused⟩
  exact (positive 50 measured).2 ⟨0, 9, 4, 0, 50⟩ rfl

end Interval
end LoadSeries

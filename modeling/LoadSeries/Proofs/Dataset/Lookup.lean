import LoadSeries.Proofs.Dataset.Validation

/-!
What the tags of a user are looked up by. The number of a measuring point is the last digits of the
user's key in two's complement, for widths that fill a word and for those beyond it alike; the other
tags are found by the user's number, taken round and round, and in checked tables none is missed.
-/
namespace LoadSeries
open Text

namespace Tables

/-- The text is the last digits of the number, as many as the width says. -/
structure LastDigits (width : Nat) (n : Int) (text : List Char) : Prop where
  length : text.length = width
  digit : ∀ c ∈ text, isDigit c = true
  value : (digitsValue text : Int) = n % 10 ^ width

/-- The entry of a table at a key, counted round and round. -/
def Entry (table : List String) (key : Nat) (text : String) : Prop :=
  table[key % table.length]? = some text

/-- The tags of a user whose number is not negative, without the number of the measuring point. -/
structure LookedUp (x : Tables) (user userType : Nat) (tags : Tags) : Prop where
  province : Entry x.provinces user tags.province
  district : Entry x.districts user tags.district
  system : Entry x.systems user tags.system
  alarmType : Entry x.alarmTypes (user + userType) tags.alarmType
  line : tags.line = "line_" ++ natString (user % x.lineCount.toNat)
  area : tags.area = "area_" ++ natString (user % x.areaCount.toNat)

variable {x : Tables} {width : Nat} {key : UInt64} {user other : Int32} {table : List String}

theorem toNat_userKey (user : Int32) : ((userKey user).toNat : Int) = user.toInt % 2 ^ 64 := by
  rw [userKey, UInt64.ofInt, UInt64.toNat_ofNat']
  omega

theorem toNat_userKey_of_nonneg (nonneg : 0 ≤ user.toInt) :
    ((userKey user).toNat : Int) = user.toInt := by
  have high := user.toInt_lt
  rw [toNat_userKey]
  exact Int.emod_eq_of_lt nonneg (by omega)

/-- A width that no word fills leaves every key as it is. -/
theorem pointNumber_eq (width : Nat) (key : UInt64) :
    pointNumber width key = paddedDigits width (key.toNat % 10 ^ width) := by
  unfold pointNumber
  split
  · rfl
  · rename_i wide
    have small : key.toNat < 10 ^ width := key.toNat_lt.trans_le (Nat.not_lt.mp wide)
    rw [Nat.mod_eq_of_lt small]

theorem lastDigits_pointNumber (positive : 0 < width) (key : UInt64) :
    LastDigits width key.toNat (pointNumber width key) := by
  have small : key.toNat % 10 ^ width < 10 ^ width := Nat.mod_lt _ (Nat.pow_pos (by decide))
  rw [pointNumber_eq]
  refine ⟨length_paddedDigits positive small, ?_, ?_⟩
  · intro c member
    exact isDigit_of_mem_paddedDigits member
  · rw [digitsValue_paddedDigits]
    push_cast
    rfl

theorem pointNumber_eq_iff (width : Nat) (key key' : UInt64) :
    pointNumber width key = pointNumber width key' ↔
      key.toNat % 10 ^ width = key'.toNat % 10 ^ width := by
  constructor
  · intro same
    rw [pointNumber_eq, pointNumber_eq] at same
    rw [← digitsValue_paddedDigits width (key.toNat % _), same, digitsValue_paddedDigits]
  · intro same
    rw [pointNumber_eq, pointNumber_eq, same]

theorem entry_pick (some : table ≠ []) (key : UInt64) :
    Entry table key.toNat (pick table key) := by
  have inside : key.toNat % table.length < table.length :=
    Nat.mod_lt _ (List.length_pos_of_ne_nil some)
  rw [Entry, pick, List.getD_eq_getElem?_getD, List.getElem?_eq_getElem inside]
  rfl

theorem counter_eq {count : UInt32} (some : count ≠ 0) (label : String) (key : UInt64) :
    counter label count key = label ++ natString (key.toNat % count.toNat) := by
  have positive : 1 ≤ count.toNat := by
    rw [Nat.one_le_iff_ne_zero]
    intro zero
    exact some (UInt32.toNat_inj.mp zero)
  rw [counter, Nat.max_eq_left positive]

/-- A key of a user whose number is not negative leaves room for every type. -/
theorem toNat_shifted (nonneg : 0 ≤ user.toInt) (userType : UInt32) :
    (userKey user).toNat + userType.toNat < 2 ^ 64 ∧
      (userKey user + userType.toUInt64).toNat = (userKey user).toNat + userType.toNat := by
  have high := user.toInt_lt
  have type := userType.toNat_lt
  have same := toNat_userKey_of_nonneg nonneg
  have room : (userKey user).toNat + userType.toNat < 2 ^ 64 := by omega
  refine ⟨room, ?_⟩
  rw [UInt64.toNat_add, UInt32.toNat_toUInt64, Nat.mod_eq_of_lt room]

theorem lookedUp_resolve (passed : x.check = .ok ()) (nonneg : 0 ≤ user.toInt)
    (userType : UInt32) :
    LookedUp x user.toInt.toNat userType.toNat (x.resolve user userType) := by
  have holds := x.requirements_govern.passes.mp ⟨(), passed⟩
  simp only [requirements, Requirement.of, List.forall_mem_cons] at holds
  obtain ⟨provinces, districts, systems, alarmTypes, lines, areas, -⟩ := holds
  have same : (userKey user).toNat = user.toInt.toNat := by
    have number := toNat_userKey_of_nonneg nonneg
    omega
  have shifted := (toNat_shifted nonneg userType).2
  rw [same] at shifted
  constructor
  · rw [← same]
    exact entry_pick provinces _
  · rw [← same]
    exact entry_pick districts _
  · rw [← same]
    exact entry_pick systems _
  · rw [← shifted]
    exact entry_pick alarmTypes _
  · rw [← same]
    exact counter_eq lines _ _
  · rw [← same]
    exact counter_eq areas _ _

/-- The number of a measuring point has as many digits as the width says, and they are the last ones
of the user's key, so that it is shared by the users whose numbers end alike. In checked tables the
type of a user is added to the number without an overflow, and every lookup finds its entry. -/
theorem resolved_by_number (x : Tables) :
    (0 < x.mpidWidth.toNat →
      (∀ user userType, LastDigits x.mpidWidth.toNat (user.toInt % 2 ^ 64)
        (x.resolve user userType).mpid.toList) ∧
      ∀ user other userType userType', 0 ≤ user.toInt → 0 ≤ other.toInt →
        ((x.resolve user userType).mpid = (x.resolve other userType').mpid ↔
          user.toInt ≡ other.toInt [ZMOD 10 ^ x.mpidWidth.toNat])) ∧
    (x.check = .ok () → ∀ user userType, 0 ≤ user.toInt →
      (userKey user).toNat + userType.toNat < 2 ^ 64 ∧
        LookedUp x user.toInt.toNat userType.toNat (x.resolve user userType)) := by
  refine ⟨fun positive => ⟨?_, ?_⟩, ?_⟩
  · intro user userType
    rw [← toNat_userKey]
    simp only [resolve, String.toList_ofList]
    exact lastDigits_pointNumber positive _
  · intro user other userType userType' nonneg nonneg'
    simp only [resolve, String.ofList_inj, pointNumber_eq_iff]
    rw [← toNat_userKey_of_nonneg nonneg, ← toNat_userKey_of_nonneg nonneg', Int.ModEq]
    norm_cast
  · intro passed user userType nonneg
    exact ⟨(toNat_shifted nonneg userType).1, lookedUp_resolve passed nonneg userType⟩

/-- The least width that no word fills. -/
def wide : Tables := { standard with mpidWidth := 20 }

theorem resolved_by_number_wide :
    0 < wide.mpidWidth.toNat ∧
      LastDigits 20 (2 ^ 64 - 1) (wide.resolve (-1) 0).mpid.toList ∧
      (wide.resolve 7 0).mpid ≠ (wide.resolve 100007 0).mpid ∧
      (standard.resolve 7 0).mpid = (standard.resolve 100007 3).mpid ∧
      standard.check = .ok () ∧
      LookedUp standard 0x7fffffff 0xffffffff (standard.resolve 0x7fffffff 0xffffffff) := by
  obtain ⟨numbers, -⟩ := resolved_by_number wide
  obtain ⟨numbers', lookups⟩ := resolved_by_number standard
  obtain ⟨digits, shared⟩ := numbers (by decide)
  obtain ⟨-, shared'⟩ := numbers' (by decide)
  have passed : standard.check = .ok () := rfl
  refine ⟨by decide, digits (-1) 0, ?_, ?_, passed,
    (lookups passed 0x7fffffff 0xffffffff (by decide)).2⟩
  · rw [Ne, shared 7 100007 0 0 (by decide) (by decide)]
    decide
  · exact (shared' 7 100007 0 3 (by decide) (by decide)).mpr (by decide)

end Tables
end LoadSeries

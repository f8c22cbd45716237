import LoadSeries.Text.Utf8
import Mathlib

/-!
Reading back what was written in UTF-8. The bytes of a character stand for it alone, whatever
follows, so a text is read back whole and its characters of one byte can be found among the bytes.
-/
namespace LoadSeries.Text

section Front

variable {a b c d : UInt8} {rest : Bytes}

theorem isContinuation_iff : isContinuation b = true ↔ 0x80 ≤ b.toNat ∧ b.toNat ≤ 0xBF := by
  simp [isContinuation, UInt8.le_iff_toNat_le]

theorem isSecondOfThree_iff : isSecondOfThree a b = true ↔
    (if a.toNat = 0xE0 then 0xA0 else 0x80) ≤ b.toNat ∧
      b.toNat ≤ if a.toNat = 0xED then 0x9F else 0xBF := by
  have first (n : UInt8) : a = n ↔ a.toNat = n.toNat := UInt8.toNat_inj.symm
  simp only [isSecondOfThree, isContinuation, beq_iff_eq, first, UInt8.reduceToNat]
  split_ifs <;> first | omega | simp [UInt8.le_iff_toNat_le]

theorem isSecondOfFour_iff : isSecondOfFour a b = true ↔
    (if a.toNat = 0xF0 then 0x90 else 0x80) ≤ b.toNat ∧
      b.toNat ≤ if a.toNat = 0xF4 then 0x8F else 0xBF := by
  have first (n : UInt8) : a = n ↔ a.toNat = n.toNat := UInt8.toNat_inj.symm
  simp only [isSecondOfFour, isContinuation, beq_iff_eq, first, UInt8.reduceToNat]
  split_ifs <;> first | omega | simp [UInt8.le_iff_toNat_le]

theorem front_one (ascii : a.toNat < 0x80) :
    front (a :: rest) = .char (Char.ofNat a.toNat) rest := by
  have small : a < 0x80 := UInt8.lt_iff_toNat_lt.mpr ascii
  rw [front.eq_def]
  exact if_pos small

private theorem front_two (low : 0xC2 ≤ a.toNat) (high : a.toNat ≤ 0xDF)
    (second : isContinuation b = true) :
    front (a :: b :: rest) = .char (Char.ofNat (a.toNat % 32 * 64 + b.toNat % 64)) rest := by
  have one : ¬ a < 0x80 := by
    rw [UInt8.lt_iff_toNat_lt]
    exact Nat.not_lt.mpr (by simpa using by omega)
  have two : (0xC2 ≤ a && a ≤ 0xDF) = true := by
    simp [UInt8.le_iff_toNat_le, low, high]
  simp only [front, if_neg one, if_pos two, if_pos second]
  rfl

private theorem front_three (low : 0xE0 ≤ a.toNat) (high : a.toNat ≤ 0xEF)
    (second : isSecondOfThree a b = true) (third : isContinuation c = true) :
    front (a :: b :: c :: rest) =
      .char (Char.ofNat ((a.toNat % 16 * 64 + b.toNat % 64) * 64 + c.toNat % 64)) rest := by
  have one : ¬ a < 0x80 := by
    rw [UInt8.lt_iff_toNat_lt]
    exact Nat.not_lt.mpr (by simpa using by omega)
  have two : ¬ (0xC2 ≤ a && a ≤ 0xDF) = true := by
    simp [UInt8.le_iff_toNat_le]
    omega
  have three : (0xE0 ≤ a && a ≤ 0xEF) = true := by
    simp [UInt8.le_iff_toNat_le, low, high]
  simp only [front, if_neg one, if_neg two, if_pos three, if_pos second, if_pos third]
  rfl

private theorem front_four (low : 0xF0 ≤ a.toNat) (high : a.toNat ≤ 0xF4)
    (second : isSecondOfFour a b = true) (third : isContinuation c = true)
    (fourth : isContinuation d = true) :
    front (a :: b :: c :: d :: rest) =
      .char (Char.ofNat (((a.toNat % 8 * 64 + b.toNat % 64) * 64 + c.toNat % 64) * 64 +
        d.toNat % 64)) rest := by
  have one : ¬ a < 0x80 := by
    rw [UInt8.lt_iff_toNat_lt]
    exact Nat.not_lt.mpr (by simpa using by omega)
  have two : ¬ (0xC2 ≤ a && a ≤ 0xDF) = true := by
    simp [UInt8.le_iff_toNat_le]
    omega
  have three : ¬ (0xE0 ≤ a && a ≤ 0xEF) = true := by
    simp [UInt8.le_iff_toNat_le]
    omega
  have four : (0xF0 ≤ a && a ≤ 0xF4) = true := by
    simp [UInt8.le_iff_toNat_le, low, high]
  simp only [front, if_neg one, if_neg two, if_neg three, if_pos four, if_pos second, if_pos third,
    if_pos fourth]
  rfl

end Front

private theorem toNat_ofNat {n : Nat} (small : n < 256) : (UInt8.ofNat n).toNat = n := by
  rw [UInt8.toNat_ofNat']
  exact Nat.mod_eq_of_lt small

private theorem isContinuation_ofNat (n : Nat) :
    isContinuation (UInt8.ofNat (n % 64 + 128)) = true := by
  rw [isContinuation_iff, toNat_ofNat (by omega)]
  omega

theorem toNat_lt (c : Char) : c.toNat < 0xD800 ∨ 0xDFFF < c.toNat ∧ c.toNat < 0x110000 := by
  have valid := c.valid
  simpa [UInt32.isValidChar, Nat.isValidChar] using valid

/-- The bytes of a character are read as that character, whatever comes behind them. -/
theorem front_utf8EncodeChar (c : Char) (rest : Bytes) :
    front (String.utf8EncodeChar c ++ rest) = .char c rest := by
  have range := toNat_lt c
  have value : c.val.toNat = c.toNat := rfl
  have same {n : Nat} (equal : n = c.toNat) : Char.ofNat n = c := by
    rw [equal, Char.ofNat_toNat]
  unfold String.utf8EncodeChar
  rw [value]
  dsimp only
  generalize c.toNat = n at range same
  split
  · have first : (UInt8.ofNat n).toNat = n := toNat_ofNat (by omega)
    rw [List.singleton_append, front_one (by omega), same first]
  split
  · have first : (UInt8.ofNat (n / 64 % 32 + 192)).toNat = n / 64 + 192 := by
      rw [toNat_ofNat (by omega)]
      omega
    have second : (UInt8.ofNat (n % 64 + 128)).toNat = n % 64 + 128 := toNat_ofNat (by omega)
    rw [List.cons_append, List.singleton_append,
      front_two (by omega) (by omega) (isContinuation_ofNat n), same]
    omega
  split
  · have first : (UInt8.ofNat (n / 4096 % 16 + 224)).toNat = n / 4096 + 224 := by
      rw [toNat_ofNat (by omega)]
      omega
    have second : (UInt8.ofNat (n / 64 % 64 + 128)).toNat = n / 64 % 64 + 128 :=
      toNat_ofNat (by omega)
    have third : (UInt8.ofNat (n % 64 + 128)).toNat = n % 64 + 128 := toNat_ofNat (by omega)
    -- The bounds on the second byte rule out long forms and surrogates.
    have bounded : isSecondOfThree (UInt8.ofNat (n / 4096 % 16 + 224))
        (UInt8.ofNat (n / 64 % 64 + 128)) = true := by
      rw [isSecondOfThree_iff, first, second]
      split_ifs <;> omega
    rw [List.cons_append, List.cons_append, List.singleton_append,
      front_three (by omega) (by omega) bounded (isContinuation_ofNat n), same]
    omega
  · have first : (UInt8.ofNat (n / 262144 % 8 + 240)).toNat = n / 262144 + 240 := by
      rw [toNat_ofNat (by omega)]
      omega
    have second : (UInt8.ofNat (n / 4096 % 64 + 128)).toNat = n / 4096 % 64 + 128 :=
      toNat_ofNat (by omega)
    have third : (UInt8.ofNat (n / 64 % 64 + 128)).toNat = n / 64 % 64 + 128 :=
      toNat_ofNat (by omega)
    have fourth : (UInt8.ofNat (n % 64 + 128)).toNat = n % 64 + 128 := toNat_ofNat (by omega)
    have bounded : isSecondOfFour (UInt8.ofNat (n / 262144 % 8 + 240))
        (UInt8.ofNat (n / 4096 % 64 + 128)) = true := by
      rw [isSecondOfFour_iff, first, second]
      split_ifs <;> omega
    rw [List.cons_append, List.cons_append, List.cons_append, List.singleton_append,
      front_four (by omega) (by omega) bounded (isContinuation_ofNat (n / 64))
        (isContinuation_ofNat n), same]
    omega

private theorem strictText?_of_char {bytes rest : Bytes} {c : Char}
    (found : front bytes = .char c rest) :
    strictText? bytes = (strictText? rest).map (c :: ·) := by
  rw [strictText?]
  split <;> simp_all

/-- A text is read back from its bytes. -/
theorem strictText?_utf8 (text : List Char) : strictText? (utf8 text) = some text := by
  induction text with
  | nil =>
    have nothing : front (utf8 []) = .nothing := rfl
    rw [strictText?]
    split <;> simp_all
  | cons c rest ih =>
    have here : front (utf8 (c :: rest)) = .char c (utf8 rest) :=
      front_utf8EncodeChar c (utf8 rest)
    rw [strictText?_of_char here, ih]
    rfl

/-- A byte of seven bits is part of no character but the one that it is. -/
theorem mem_utf8EncodeChar_iff {b : UInt8} {c : Char} (ascii : b.toNat < 0x80) :
    b ∈ String.utf8EncodeChar c ↔ c.toNat = b.toNat := by
  have range := toNat_lt c
  have value : c.val.toNat = c.toNat := rfl
  have big {n : Nat} (high : 0x80 ≤ n) (small : n < 256) : b ≠ UInt8.ofNat n := by
    rintro rfl
    rw [toNat_ofNat small] at ascii
    omega
  unfold String.utf8EncodeChar
  rw [value]
  dsimp only
  split
  · rw [List.mem_singleton, ← UInt8.toNat_inj, toNat_ofNat (by omega)]
    exact eq_comm
  · have differs : c.toNat ≠ b.toNat := by omega
    rw [iff_false_right differs]
    split
    · simp only [List.mem_cons, List.not_mem_nil, or_false, not_or]
      exact ⟨big (by omega) (by omega), big (by omega) (by omega)⟩
    split
    · simp only [List.mem_cons, List.not_mem_nil, or_false, not_or]
      exact ⟨big (by omega) (by omega), big (by omega) (by omega), big (by omega) (by omega)⟩
    · simp only [List.mem_cons, List.not_mem_nil, or_false, not_or]
      exact ⟨big (by omega) (by omega), big (by omega) (by omega), big (by omega) (by omega),
        big (by omega) (by omega)⟩

theorem mem_utf8_iff {b : UInt8} {text : List Char} (ascii : b.toNat < 0x80) :
    b ∈ utf8 text ↔ Char.ofNat b.toNat ∈ text := by
  have char {c : Char} : c.toNat = b.toNat ↔ c = Char.ofNat b.toNat := by
    constructor
    · intro same
      rw [← same, Char.ofNat_toNat]
    · rintro rfl
      rw [Char.toNat_ofNat]
      exact if_pos (.inl (by omega))
  simp only [utf8, List.mem_flatMap, mem_utf8EncodeChar_iff ascii, char, exists_eq_right]

end LoadSeries.Text

import LoadSeries.Proofs.Text.Digits
import LoadSeries.Text.Integer

/-!
Numbers read back from their digits: zeros in front do not count, a number below a power of ten has
no more digits than the power has zeros, and an integer is read as it was written wherever it fits.
-/
namespace LoadSeries.Text

theorem digits_ne_nil (n : Nat) : digits n ≠ [] := by
  rw [digits]
  split <;> simp

theorem length_digits_le {k n : Nat} (small : n < 10 ^ (k + 1)) : (digits n).length ≤ k + 1 := by
  induction k generalizing n with
  | zero =>
    have one : n < 10 := by simpa using small
    rw [digits, if_pos one]
    exact Nat.le_refl 1
  | succ k ih =>
    rw [digits]
    split
    · exact Nat.succ_le_succ (Nat.zero_le _)
    · have higher : n / 10 < 10 ^ (k + 1) := by
        rw [Nat.pow_succ] at small
        exact Nat.div_lt_of_lt_mul (by omega)
      have length := ih higher
      rw [List.length_append, List.length_singleton]
      omega

theorem lt_pow_length_digits (n : Nat) : n < 10 ^ (digits n).length := by
  induction n using digits.induct with
  | case1 n small =>
    rw [digits, if_pos small]
    exact small
  | case2 n great ih =>
    rw [digits, if_neg great, List.length_append, List.length_singleton, Nat.pow_succ]
    omega

theorem pow_le_of_length_digits {k n : Nat} (positive : 0 < n)
    (length : k + 1 ≤ (digits n).length) : 10 ^ k ≤ n := by
  rcases k with - | k
  · exact positive
  · rcases Nat.lt_or_ge n (10 ^ (k + 1)) with short | long
    · have fewer := length_digits_le short
      omega
    · exact long

theorem digitsValue_zeros (count : Nat) (text : List Char) :
    digitsValue (List.replicate count '0' ++ text) = digitsValue text := by
  induction count with
  | zero => rfl
  | succ count ih => exact ih

theorem digitsValue_paddedDigits (width n : Nat) : digitsValue (paddedDigits width n) = n := by
  rw [paddedDigits, digitsValue_zeros, digitsValue_digits]

theorem le_length_paddedDigits (width n : Nat) : width ≤ (paddedDigits width n).length := by
  rw [paddedDigits, List.length_append, List.length_replicate]
  omega

theorem length_paddedDigits {width n : Nat} (positive : 0 < width) (small : n < 10 ^ width) :
    (paddedDigits width n).length = width := by
  obtain ⟨k, rfl⟩ := Nat.exists_eq_succ_of_ne_zero positive.ne'
  have short := length_digits_le small
  rw [paddedDigits, List.length_append, List.length_replicate]
  omega

section Reading

variable {below above limit : Nat} {overflow : IntegerError} {text : List Char}

theorem le_foldl_digits (text : List Char) (value : Nat) :
    value ≤ text.foldl (fun n c => 10 * n + digitValue c) value := by
  induction text generalizing value with
  | nil => exact Nat.le_refl value
  | cons c rest ih =>
    have onward := ih (10 * value + digitValue c)
    rw [List.foldl_cons]
    omega

/-- The number only grows as digits are read, so that the limit is kept if it is in the end. -/
theorem readMagnitude_of_digits {value : Nat} (digit : ∀ c ∈ text, isDigit c = true)
    (fits : text.foldl (fun n c => 10 * n + digitValue c) value ≤ limit) :
    readMagnitude limit overflow text value =
      .ok (text.foldl (fun n c => 10 * n + digitValue c) value) := by
  induction text generalizing value with
  | nil => rfl
  | cons c rest ih =>
    rw [List.foldl_cons] at fits ⊢
    have small := (le_foldl_digits rest (10 * value + digitValue c)).trans fits
    rw [readMagnitude, digit c List.mem_cons_self, if_pos rfl]
    simp only [Nat.not_lt.mpr small, if_false]
    exact ih (fun d member => digit d (List.mem_cons_of_mem c member)) fits

theorem readInteger_of_digits (some : text ≠ []) (digit : ∀ c ∈ text, isDigit c = true)
    (fits : digitsValue text ≤ above) :
    readInteger below above text = .ok (digitsValue text) := by
  have magnitude : readMagnitude above .tooLarge text 0 = .ok (digitsValue text) :=
    readMagnitude_of_digits digit fits
  unfold readInteger
  split
  · exact absurd rfl some
  · rw [digit _ List.mem_cons_self, if_pos rfl, magnitude]
    rfl
  · exact absurd (digit '+' List.mem_cons_self) (by decide)
  · exact absurd (digit '-' List.mem_cons_self) (by decide)
  · rw [magnitude]
    rfl

theorem readInteger_minus (some : text ≠ []) (digit : ∀ c ∈ text, isDigit c = true)
    (fits : digitsValue text ≤ below) :
    readInteger below above ('-' :: text) = .ok (-(digitsValue text : Int)) := by
  have magnitude : readMagnitude below .tooSmall text 0 = .ok (digitsValue text) :=
    readMagnitude_of_digits digit fits
  cases text with
  | nil => exact absurd rfl some
  | cons c rest =>
    rw [readInteger, magnitude]
    · rfl
    · simp

theorem readInteger_intText {n : Int} (low : -(below : Int) ≤ n) (high : n ≤ above) :
    readInteger below above (intText n) = .ok n := by
  have some := digits_ne_nil n.natAbs
  have digit : ∀ c ∈ digits n.natAbs, isDigit c = true := fun c => isDigit_of_mem_digits
  have value := digitsValue_digits n.natAbs
  unfold intText
  split
  · rw [readInteger_minus some digit (by omega), value]
    exact congrArg _ (by omega)
  · rw [readInteger_of_digits some digit (by omega), value]
    exact congrArg _ (by omega)

theorem readInt64_intText (n : Int64) : readInt64 (intText n.toInt) = .ok n.toInt := by
  have low := n.le_toInt
  have high := n.toInt_lt
  exact readInteger_intText (by omega) (by omega)

end Reading

end LoadSeries.Text

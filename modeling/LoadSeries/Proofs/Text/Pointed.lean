import LoadSeries.Proofs.Text.Numerals
import Mathlib

/-!
Digits with a point among them: the number they stand for, and the digits in front of the last
places of a number.
-/
namespace LoadSeries.Text

/-- The number that digits stand for, with a point among them or without one. -/
def numberOf (text : List Char) : ℚ :=
  let whole := text.takeWhile (· != '.')
  let fraction := (text.dropWhile (· != '.')).drop 1
  (digitsValue (whole ++ fraction) : ℚ) / 10 ^ fraction.length

/-- Digits without a superfluous zero in front. -/
structure IsNumeral (text : List Char) : Prop where
  nonempty : text ≠ []
  digit : ∀ c ∈ text, isDigit c = true
  front : text.head? = some '0' → text = ['0']

section NumberOf

variable {whole fraction : List Char}

theorem ne_point_of_isDigit {c : Char} (digit : isDigit c = true) : (c != '.') = true := by
  rw [bne_iff_ne]
  rintro rfl
  cases digit

theorem numberOf_digits (digit : ∀ c ∈ whole, isDigit c = true) :
    numberOf whole = digitsValue whole := by
  have free : ∀ c ∈ whole, (c != '.') = true := fun c member => ne_point_of_isDigit (digit c member)
  have front := List.takeWhile_eq_self_iff.mpr free
  have back := List.dropWhile_eq_nil_iff.mpr free
  simp [numberOf, front, back]

theorem numberOf_pointed (digit : ∀ c ∈ whole, isDigit c = true) (fraction : List Char) :
    numberOf (whole ++ '.' :: fraction) =
      (digitsValue (whole ++ fraction) : ℚ) / 10 ^ fraction.length := by
  have free : ∀ c ∈ whole, (c != '.') = true := fun c member => ne_point_of_isDigit (digit c member)
  rw [numberOf, List.takeWhile_append_of_pos free, List.dropWhile_append_of_pos free]
  simp

end NumberOf

theorem digits_zero : digits 0 = ['0'] := by
  rw [digits, if_pos (by decide)]
  rfl

theorem isNumeral_digits (n : Nat) : IsNumeral (digits n) where
  nonempty := digits_ne_nil n
  digit _ := isDigit_of_mem_digits
  front := by
    induction n using digits.induct with
    | case1 n small =>
      rw [digits, if_pos small]
      intro zero
      exact congrArg (fun c => [c]) (Option.some.inj zero)
    | case2 n great ih =>
      rw [digits, if_neg great, List.head?_append_of_ne_nil _ (digits_ne_nil _)]
      intro zero
      have higher : digits (n / 10) = digits 0 := (ih zero).trans digits_zero.symm
      have none := digits_injective higher
      omega

theorem digitsValue_append (front back : List Char) :
    digitsValue (front ++ back) = digitsValue front * 10 ^ back.length + digitsValue back := by
  induction back using List.reverseRecOn with
  | nil => simp [digitsValue]
  | append_singleton back c ih =>
    unfold digitsValue at ih ⊢
    rw [← List.append_assoc, List.foldl_append, ih, List.foldl_append, List.length_append]
    simp only [List.foldl_cons, List.foldl_nil, List.length_singleton, pow_succ]
    ring

theorem digitsValue_append_zeros (text : List Char) (count : Nat) :
    digitsValue (text ++ List.replicate count '0') = digitsValue text * 10 ^ count := by
  have zeros := digitsValue_zeros count []
  rw [List.append_nil] at zeros
  rw [digitsValue_append, List.length_replicate, zeros]
  rfl

theorem isDigit_append_zeros {text : List Char} (digit : ∀ c ∈ text, isDigit c = true)
    (count : Nat) : ∀ c ∈ text ++ List.replicate count '0', isDigit c = true := by
  intro c member
  rcases List.mem_append.mp member with inside | zero
  · exact digit c inside
  · rw [List.eq_of_mem_replicate zero]
    rfl

/-- A point in front of so many places of a padded number divides it by as many tens. -/
theorem numberOf_pointed_padded (places n : Nat) :
    let full := paddedDigits (places + 1) n
    numberOf (full.take (full.length - places) ++ '.' :: full.drop (full.length - places)) =
      (n : ℚ) / 10 ^ places := by
  have value := digitsValue_paddedDigits (places + 1) n
  have digit : ∀ c ∈ paddedDigits (places + 1) n, isDigit c = true := fun c =>
    isDigit_of_mem_paddedDigits
  have long := le_length_paddedDigits (places + 1) n
  generalize paddedDigits (places + 1) n = full at value digit long
  have length : (full.drop (full.length - places)).length = places := by
    rw [List.length_drop]
    omega
  dsimp only
  rw [numberOf_pointed (fun c member => digit c (List.mem_of_mem_take member)),
    List.take_append_drop, length, value]

theorem paddedDigits_succ (k n : Nat) :
    paddedDigits (k + 2) n = paddedDigits (k + 1) (n / 10) ++ [digitChar (n % 10)] := by
  unfold paddedDigits
  dsimp only
  rcases Nat.lt_or_ge n 10 with small | great
  · rw [digits, if_pos small, Nat.div_eq_of_lt small, digits_zero, Nat.mod_eq_of_lt small,
      List.length_singleton, List.length_singleton]
    exact congrArg (· ++ [digitChar n]) List.replicate_succ'
  · have width : k + 2 - ((digits (n / 10)).length + 1) = k + 1 - (digits (n / 10)).length := by
      omega
    rw [digits, if_neg (by omega), List.length_append, List.length_singleton, ← List.append_assoc,
      width]

theorem paddedDigits_one (n : Nat) : paddedDigits 1 n = digits n := by
  have some := List.length_pos_iff.mpr (digits_ne_nil n)
  have none : 1 - (digits n).length = 0 := by omega
  rw [paddedDigits, none]
  rfl

end LoadSeries.Text

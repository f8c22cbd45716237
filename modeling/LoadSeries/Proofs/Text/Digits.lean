import LoadSeries.Decimal.Basic
import Mathlib

/-!
The characters of numbers: a natural number is written in digits, whether padded or not, an integer
may have a minus in front, and a decimal a point within. Different integers are written differently.
-/
namespace LoadSeries
open Text

namespace Text

theorem isDigit_digitChar {d : Nat} (small : d < 10) : isDigit (digitChar d) = true := by
  interval_cases d <;> decide

theorem isDigit_of_mem_digits {n : Nat} {c : Char} (member : c ∈ digits n) : isDigit c = true := by
  induction n using digits.induct with
  | case1 n small =>
    rw [digits, if_pos small, List.mem_singleton] at member
    rw [member]
    exact isDigit_digitChar small
  | case2 n great ih =>
    rw [digits, if_neg great, List.mem_append, List.mem_singleton] at member
    rcases member with higher | rfl
    · exact ih higher
    · exact isDigit_digitChar (Nat.mod_lt n (by decide))

theorem isDigit_of_mem_paddedDigits {width n : Nat} {c : Char}
    (member : c ∈ paddedDigits width n) : isDigit c = true := by
  unfold paddedDigits at member
  rcases List.mem_append.mp member with zero | digit
  · rw [List.eq_of_mem_replicate zero]
    rfl
  · exact isDigit_of_mem_digits digit

theorem isDigit_or_of_mem_intText {n : Int} {c : Char} (member : c ∈ intText n) :
    isDigit c = true ∨ c = '-' := by
  unfold intText at member
  split at member
  · rcases List.mem_cons.mp member with minus | digit
    · exact .inr minus
    · exact .inl (isDigit_of_mem_digits digit)
  · exact .inl (isDigit_of_mem_digits member)

theorem digitValue_digitChar {d : Nat} (small : d < 10) : digitValue (digitChar d) = d := by
  interval_cases d <;> decide

theorem digitsValue_digits (n : Nat) : digitsValue (digits n) = n := by
  induction n using digits.induct with
  | case1 n small =>
    rw [digits, if_pos small]
    simp [digitsValue, digitValue_digitChar small]
  | case2 n great ih =>
    have last := digitValue_digitChar (Nat.mod_lt n (by decide : 0 < 10))
    unfold digitsValue at ih ⊢
    rw [digits, if_neg great, List.foldl_append, ih, List.foldl_cons, List.foldl_nil, last]
    exact Nat.div_add_mod n 10

theorem digits_injective {m n : Nat} (same : digits m = digits n) : m = n := by
  rw [← digitsValue_digits m, same, digitsValue_digits]

theorem intText_injective {m n : Int} (same : intText m = intText n) : m = n := by
  have unsigned {k : Nat} (rest : List Char) : digits k ≠ '-' :: rest := by
    intro signed
    have digit : isDigit '-' = true := isDigit_of_mem_digits (signed ▸ List.mem_cons_self)
    cases digit
  unfold intText at same
  split at same <;> split at same
  · have absolute := digits_injective (List.cons.inj same).2
    omega
  · exact absurd same.symm (unsigned _)
  · exact absurd same (unsigned _)
  · have absolute := digits_injective same
    omega

end Text

theorem Decimal.isDigit_or_of_mem_text {x : Decimal} {c : Char} (member : c ∈ x.text) :
    isDigit c = true ∨ c = '.' ∨ c = '-' := by
  unfold Decimal.text at member
  generalize body : paddedDigits (x.scale + 1) x.coefficient.natAbs = row at member
  have digit {d : Char} (inside : d ∈ row) : isDigit d = true := by
    rw [← body] at inside
    exact isDigit_of_mem_paddedDigits inside
  have pointed {d : Char} (inside : d ∈ if x.scale = 0 then row else
      row.take (row.length - x.scale) ++ '.' :: row.drop (row.length - x.scale)) :
      isDigit d = true ∨ d = '.' := by
    split at inside
    · exact .inl (digit inside)
    · rcases List.mem_append.mp inside with whole | rest
      · exact .inl (digit (List.mem_of_mem_take whole))
      · rcases List.mem_cons.mp rest with point | part
        · exact .inr point
        · exact .inl (digit (List.mem_of_mem_drop part))
  dsimp only at member
  split at member
  · rcases List.mem_cons.mp member with minus | inside
    · exact .inr (.inr minus)
    · exact (pointed inside).imp_right .inl
  · exact (pointed member).imp_right .inl

end LoadSeries

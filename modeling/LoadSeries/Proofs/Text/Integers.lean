import LoadSeries.Proofs.Text.Numerals

/-!
From what texts an integer is read, and why it is not read from the others: the range is left, or a
character is no digit, whichever comes first.
-/
namespace LoadSeries.Text

structure AreDigits (text : List Char) : Prop where
  nonempty : text ≠ []
  digit : ∀ c ∈ text, isDigit c = true

/-- The text is a sign, or none, in front of digits, which stand for this integer. -/
inductive Denotes : List Char → Int → Prop
  | unsigned {text : List Char} (digits : AreDigits text) : Denotes text (digitsValue text)
  | plus {text : List Char} (digits : AreDigits text) : Denotes ('+' :: text) (digitsValue text)
  | minus {text : List Char} (digits : AreDigits text) : Denotes ('-' :: text) (-digitsValue text)

/-- Where the reading of digits ends that are to stand for no more than the limit. -/
inductive Spoiled (limit : Nat) (overflow : IntegerError) : List Char → IntegerError → Prop
  | character {front rest : List Char} {c : Char} (digit : ∀ d ∈ front, isDigit d = true)
      (fits : digitsValue front ≤ limit) (other : isDigit c = false) :
      Spoiled limit overflow (front ++ c :: rest) .invalidDigit
  | overflow {front rest : List Char} (digit : ∀ d ∈ front, isDigit d = true)
      (exceeds : limit < digitsValue front) : Spoiled limit overflow (front ++ rest) overflow

def Unsigned (text : List Char) : Prop := ∀ c ∈ text.head?, c ≠ '+' ∧ c ≠ '-'

/-- Why no integer from `-below` to `above` is read from the text. -/
inductive Unreadable (below above : Nat) : List Char → IntegerError → Prop
  | empty : Unreadable below above [] .empty
  | sign {c : Char} (sign : c = '+' ∨ c = '-') : Unreadable below above [c] .invalidDigit
  | unsigned {text : List Char} {e : IntegerError} (nonempty : text ≠ []) (unsigned : Unsigned text)
      (spoiled : Spoiled above .tooLarge text e) : Unreadable below above text e
  | plus {text : List Char} {e : IntegerError} (nonempty : text ≠ [])
      (spoiled : Spoiled above .tooLarge text e) : Unreadable below above ('+' :: text) e
  | minus {text : List Char} {e : IntegerError} (nonempty : text ≠ [])
      (spoiled : Spoiled below .tooSmall text e) : Unreadable below above ('-' :: text) e

variable {limit below above value : Nat} {overflow e : IntegerError} {text front : List Char}
  {n : Int} {c : Char}

theorem readMagnitude_of_other (digit : ∀ d ∈ front, isDigit d = true)
    (fits : front.foldl (fun n c => 10 * n + digitValue c) value ≤ limit)
    (other : isDigit c = false) (rest : List Char) :
    readMagnitude limit overflow (front ++ c :: rest) value = .error .invalidDigit := by
  induction front generalizing value with
  | nil => simp [readMagnitude, other]
  | cons d front ih =>
    rw [List.foldl_cons] at fits
    have small := (le_foldl_digits front (10 * value + digitValue d)).trans fits
    rw [List.cons_append, readMagnitude, digit d List.mem_cons_self, if_pos rfl]
    simp only [Nat.not_lt.mpr small, if_false]
    apply ih
    · intro c' member
      exact digit c' (List.mem_cons_of_mem d member)
    · exact fits

theorem readMagnitude_of_exceeds (within : value ≤ limit) (digit : ∀ d ∈ front, isDigit d = true)
    (exceeds : limit < front.foldl (fun n c => 10 * n + digitValue c) value) (rest : List Char) :
    readMagnitude limit overflow (front ++ rest) value = .error overflow := by
  induction front generalizing value with
  | nil => exact absurd exceeds (Nat.not_lt.mpr within)
  | cons d front ih =>
    rw [List.foldl_cons] at exceeds
    rw [List.cons_append, readMagnitude, digit d List.mem_cons_self, if_pos rfl]
    dsimp only
    split
    · rfl
    · rename_i more
      apply ih
      · exact Nat.not_lt.mp more
      · intro c' member
        exact digit c' (List.mem_cons_of_mem d member)
      · exact exceeds

theorem readMagnitude_of_spoiled (spoiled : Spoiled limit overflow text e) :
    readMagnitude limit overflow text 0 = .error e := by
  cases spoiled with
  | character digit fits other => exact readMagnitude_of_other digit fits other _
  | overflow digit exceeds => exact readMagnitude_of_exceeds (Nat.zero_le limit) digit exceeds _

theorem digits_or_spoiled (limit : Nat) (overflow : IntegerError) (nonempty : text ≠ []) :
    AreDigits text ∧ digitsValue text ≤ limit ∨ ∃ e, Spoiled limit overflow text e := by
  have split : text = text.takeWhile isDigit ++ text.dropWhile isDigit :=
    List.takeWhile_append_dropWhile.symm
  have digit : ∀ c ∈ text.takeWhile isDigit, isDigit c = true := by
    intro c member
    exact List.mem_takeWhile_imp member
  rcases Nat.lt_or_ge limit (digitsValue (text.takeWhile isDigit)) with exceeds | fits
  · right
    rw [split]
    exact ⟨overflow, .overflow digit exceeds⟩
  · cases rest : text.dropWhile isDigit with
    | nil =>
      rw [rest, List.append_nil] at split
      rw [← split] at digit fits
      exact .inl ⟨⟨nonempty, digit⟩, fits⟩
    | cons c rest' =>
      have other : isDigit c = false := by
        have found : text.find? (!isDigit ·) = some c := by
          rw [List.find?_not_eq_head?_dropWhile, rest]
          rfl
        simpa using List.find?_some found
      right
      rw [split, rest]
      exact ⟨.invalidDigit, .character digit fits other⟩

theorem readInteger_plus (nonempty : text ≠ []) : readInteger below above ('+' :: text) =
    (readMagnitude above .tooLarge text 0).map Int.ofNat := by
  cases text with
  | nil => exact absurd rfl nonempty
  | cons c rest => rfl

theorem readInteger_dash (nonempty : text ≠ []) : readInteger below above ('-' :: text) =
    (readMagnitude below .tooSmall text 0).map fun n => -Int.ofNat n := by
  cases text with
  | nil => exact absurd rfl nonempty
  | cons c rest => rfl

theorem readInteger_unsigned (nonempty : text ≠ []) (unsigned : Unsigned text) :
    readInteger below above text = (readMagnitude above .tooLarge text 0).map Int.ofNat := by
  unfold readInteger
  split
  · exact absurd rfl nonempty
  · rename_i c
    split
    · rfl
    · rename_i other
      simp [readMagnitude, other, Except.map]
  · exact absurd rfl (unsigned '+' rfl).1
  · exact absurd rfl (unsigned '-' rfl).2
  · rfl

theorem readInteger_of_denotes (denotes : Denotes text n) (low : -(below : Int) ≤ n)
    (high : n ≤ above) : readInteger below above text = .ok n := by
  cases denotes with
  | unsigned digits => exact readInteger_of_digits digits.nonempty digits.digit (by omega)
  | plus digits =>
    have fits : digitsValue _ ≤ above := Int.ofNat_le.mp high
    rw [readInteger_plus digits.nonempty, readMagnitude_of_digits digits.digit fits]
    rfl
  | minus digits => exact readInteger_minus digits.nonempty digits.digit (by omega)

theorem readInteger_of_unreadable (unreadable : Unreadable below above text e) :
    readInteger below above text = .error e := by
  cases unreadable with
  | empty => rfl
  | sign sign => rcases sign with rfl | rfl <;> rfl
  | unsigned nonempty unsigned spoiled =>
    rw [readInteger_unsigned nonempty unsigned, readMagnitude_of_spoiled spoiled]
    rfl
  | plus nonempty spoiled =>
    rw [readInteger_plus nonempty, readMagnitude_of_spoiled spoiled]
    rfl
  | minus nonempty spoiled =>
    rw [readInteger_dash nonempty, readMagnitude_of_spoiled spoiled]
    rfl

theorem denotes_or_unreadable (below above : Nat) (text : List Char) :
    (∃ n : Int, Denotes text n ∧ -(below : Int) ≤ n ∧ n ≤ above) ∨
      ∃ e, Unreadable below above text e := by
  cases text with
  | nil => exact .inr ⟨_, .empty⟩
  | cons c rest =>
    by_cases sign : c = '+' ∨ c = '-'
    · by_cases lone : rest = []
      · subst rest
        exact .inr ⟨_, .sign sign⟩
      · rcases sign with rfl | rfl
        · rcases digits_or_spoiled above .tooLarge lone with ⟨digits, fits⟩ | ⟨e, spoiled⟩
          · exact .inl ⟨_, .plus digits, by omega, by omega⟩
          · exact .inr ⟨e, .plus lone spoiled⟩
        · rcases digits_or_spoiled below .tooSmall lone with ⟨digits, fits⟩ | ⟨e, spoiled⟩
          · exact .inl ⟨_, .minus digits, by omega, by omega⟩
          · exact .inr ⟨e, .minus lone spoiled⟩
    · have nonempty : c :: rest ≠ [] := List.cons_ne_nil c rest
      have unsigned : Unsigned (c :: rest) := by
        rintro d ⟨⟩
        exact not_or.mp sign
      rcases digits_or_spoiled above .tooLarge nonempty with ⟨digits, fits⟩ | ⟨e, spoiled⟩
      · exact .inl ⟨_, .unsigned digits, by omega, by omega⟩
      · exact .inr ⟨e, .unsigned nonempty unsigned spoiled⟩

theorem readInteger_eq_ok_iff : readInteger below above text = .ok n ↔
    Denotes text n ∧ -(below : Int) ≤ n ∧ n ≤ above := by
  constructor
  · intro read
    rcases denotes_or_unreadable below above text with ⟨m, denotes, low, high⟩ | ⟨e, unreadable⟩
    · rw [readInteger_of_denotes denotes low high] at read
      obtain rfl := Except.ok.inj read
      exact ⟨denotes, low, high⟩
    · rw [readInteger_of_unreadable unreadable] at read
      cases read
  · rintro ⟨denotes, low, high⟩
    exact readInteger_of_denotes denotes low high

theorem readInteger_eq_error_iff :
    readInteger below above text = .error e ↔ Unreadable below above text e := by
  constructor
  · intro failed
    rcases denotes_or_unreadable below above text with ⟨m, denotes, low, high⟩ | ⟨e', unreadable⟩
    · rw [readInteger_of_denotes denotes low high] at failed
      cases failed
    · rw [readInteger_of_unreadable unreadable] at failed
      obtain rfl := Except.error.inj failed
      exact unreadable
  · exact readInteger_of_unreadable

theorem Denotes.isDigit_last (denotes : Denotes text n) :
    ∀ d ∈ text.getLast?, isDigit d = true := by
  intro d last
  cases denotes with
  | unsigned digits => exact digits.digit d (List.mem_of_getLast? last)
  | plus digits =>
    rw [List.getLast?_cons_of_ne_nil digits.nonempty] at last
    exact digits.digit d (List.mem_of_getLast? last)
  | minus digits =>
    rw [List.getLast?_cons_of_ne_nil digits.nonempty] at last
    exact digits.digit d (List.mem_of_getLast? last)

/-- A text denotes one integer, since that is what is read from it within any range. -/
theorem Denotes.unique {m : Int} (denotes : Denotes text n) (other : Denotes text m) : n = m := by
  have first : readInteger (n.natAbs + m.natAbs) (n.natAbs + m.natAbs) text = .ok n :=
    readInteger_of_denotes denotes (by omega) (by omega)
  have second : readInteger (n.natAbs + m.natAbs) (n.natAbs + m.natAbs) text = .ok m :=
    readInteger_of_denotes other (by omega) (by omega)
  exact Except.ok.inj (first.symm.trans second)

end LoadSeries.Text

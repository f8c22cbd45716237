import LoadSeries.Proofs.Text.Utf8

/-!
Reading with replacement, piece by piece. A faulty run can take in a following byte that could
belong to a character, but never a byte of seven bits nor the first byte of a text: at each of them
the reading starts afresh.
-/
namespace LoadSeries.Text

variable {a : UInt8} {bytes more rest : Bytes} {c : Char} {text : List Char}

/-- What stands at the front if more bytes come behind. -/
def Front.append : Front → Bytes → Front
  | .nothing, _ => .nothing
  | .char c rest, more => .char c (rest ++ more)
  | .fault rest, more => .fault (rest ++ more)

theorem isContinuation_of_ascii (ascii : a.toNat < 0x80) : isContinuation a = false := by
  rw [Bool.eq_false_iff, Ne, isContinuation_iff]
  omega

theorem isSecondOfThree_of_ascii (ascii : a.toNat < 0x80) (first : UInt8) :
    isSecondOfThree first a = false := by
  rw [Bool.eq_false_iff, Ne, isSecondOfThree_iff]
  split_ifs <;> omega

theorem isSecondOfFour_of_ascii (ascii : a.toNat < 0x80) (first : UInt8) :
    isSecondOfFour first a = false := by
  rw [Bool.eq_false_iff, Ne, isSecondOfFour_iff]
  split_ifs <;> omega

/-- A byte of seven bits changes nothing about the bytes in front of it. -/
theorem front_append_cons (nonempty : bytes ≠ []) (ascii : a.toNat < 0x80) (more : Bytes) :
    front (bytes ++ a :: more) = (front bytes).append (a :: more) := by
  have after := isContinuation_of_ascii ascii
  have three := isSecondOfThree_of_ascii ascii
  have four := isSecondOfFour_of_ascii ascii
  -- Four bytes decide what stands at the front, so the byte counts among the first four only.
  match bytes with
  | [b] =>
    simp only [List.cons_append, List.nil_append, front, after, three, four, Bool.false_eq_true,
      if_false]
    split_ifs <;> rfl
  | [b, c] =>
    simp only [List.cons_append, List.nil_append, front, after, Bool.false_eq_true, if_false]
    split_ifs <;> rfl
  | [b, c, d] =>
    simp only [List.cons_append, List.nil_append, front, after, Bool.false_eq_true, if_false]
    split_ifs <;> rfl
  | b :: c :: d :: e :: rest =>
    simp only [List.cons_append, front]
    split_ifs <;> rfl

theorem lossyText_nil : lossyText [] = [] := by
  have nothing : front [] = .nothing := rfl
  rw [lossyText]
  split <;> simp_all

theorem lossyText_of_char (found : front bytes = .char c rest) :
    lossyText bytes = c :: lossyText rest := by
  rw [lossyText]
  split <;> simp_all

theorem lossyText_of_fault (found : front bytes = .fault rest) :
    lossyText bytes = replacement :: lossyText rest := by
  rw [lossyText]
  split <;> simp_all

theorem front_ne_nothing (nonempty : bytes ≠ []) : front bytes ≠ .nothing := by
  intro nothing
  cases bytes with
  | nil => contradiction
  | cons b rest =>
    unfold front at nothing
    repeat' split at nothing
    all_goals contradiction

/-- The reading starts afresh at a byte of seven bits, whatever stands in front of it. -/
theorem lossyText_append_cons (ascii : a.toNat < 0x80) (bytes more : Bytes) :
    lossyText (bytes ++ a :: more) = lossyText bytes ++ lossyText (a :: more) := by
  induction bytes using lossyText.induct with
  | case1 bytes nothing =>
    have empty : bytes = [] := by
      by_contra nonempty
      exact front_ne_nothing nonempty nothing
    rw [empty, lossyText_nil, List.nil_append, List.nil_append]
  | case2 bytes c rest found shorter ih =>
    have nonempty : bytes ≠ [] := by
      rintro rfl
      cases found
    have whole : front (bytes ++ a :: more) = .char c (rest ++ a :: more) := by
      rw [front_append_cons nonempty ascii, found, Front.append]
    rw [lossyText_of_char whole, lossyText_of_char found, ih, List.cons_append]
  | case3 bytes rest found shorter ih =>
    have nonempty : bytes ≠ [] := by
      rintro rfl
      cases found
    have whole : front (bytes ++ a :: more) = .fault (rest ++ a :: more) := by
      rw [front_append_cons nonempty ascii, found, Front.append]
    rw [lossyText_of_fault whole, lossyText_of_fault found, ih, List.cons_append]

/-- Whatever follows the bytes is read on its own. -/
def Settled (bytes : Bytes) : Prop :=
  ∀ more, lossyText (bytes ++ more) = lossyText bytes ++ lossyText more

namespace Settled

theorem append (first : Settled bytes) (second : Settled more) : Settled (bytes ++ more) := by
  intro rest
  rw [List.append_assoc, first, second, first, List.append_assoc]

theorem concat (ascii : a.toNat < 0x80) (bytes : Bytes) : Settled (bytes ++ [a]) := by
  intro more
  have read (rest : Bytes) : lossyText (a :: rest) = Char.ofNat a.toNat :: lossyText rest :=
    lossyText_of_char (front_one ascii)
  rw [List.append_assoc, List.singleton_append, lossyText_append_cons ascii,
    lossyText_append_cons ascii, read, read, lossyText_nil, List.append_assoc,
    List.singleton_append]

theorem lossy_append (settled : Settled bytes) (more : Bytes) :
    lossy (bytes ++ more) = lossy bytes ++ lossy more := by
  rw [lossy, settled, utf8, List.flatMap_append]
  rfl

end Settled

theorem lossyText_utf8_append (text : List Char) (more : Bytes) :
    lossyText (utf8 text ++ more) = text ++ lossyText more := by
  induction text with
  | nil => rfl
  | cons c rest ih =>
    have here : front (utf8 (c :: rest) ++ more) = .char c (utf8 rest ++ more) := by
      rw [utf8, List.flatMap_cons, List.append_assoc]
      exact front_utf8EncodeChar c _
    rw [lossyText_of_char here, ih, List.cons_append]

theorem lossy_utf8_append (text : List Char) (more : Bytes) :
    lossy (utf8 text ++ more) = utf8 text ++ lossy more := by
  rw [lossy, lossyText_utf8_append, utf8, List.flatMap_append]
  rfl

theorem isValidUTF8_iff : bytes.toByteArray.IsValidUTF8 ↔ ∃ text, utf8 text = bytes := by
  constructor
  · rintro ⟨text, same⟩
    exact ⟨text, (List.toByteArray_inj.mp same).symm⟩
  · rintro ⟨text, rfl⟩
    exact ⟨text, rfl⟩

theorem isValidUTF8_lossy (bytes : Bytes) : (lossy bytes).toByteArray.IsValidUTF8 :=
  isValidUTF8_iff.mpr ⟨lossyText bytes, rfl⟩

/-- Reading with replacement changes the bytes that are no text, and no others. -/
theorem lossy_eq_self_iff : lossy bytes = bytes ↔ bytes.toByteArray.IsValidUTF8 := by
  constructor
  · intro same
    rw [← same]
    exact isValidUTF8_lossy bytes
  · intro valid
    obtain ⟨text, rfl⟩ := isValidUTF8_iff.mp valid
    have empty : lossy [] = [] := by
      rw [lossy, lossyText_nil]
      rfl
    have read := lossy_utf8_append text []
    rwa [empty, List.append_nil] at read

/-- The texts stand in the bytes one behind the other, each of them whole. -/
inductive Embeds : List Bytes → Bytes → Prop
  | nil (bytes : Bytes) : Embeds [] bytes
  | cons (gap : Bytes) {text rest : Bytes} {texts : List Bytes} (behind : Embeds texts rest) :
      Embeds (text :: texts) (gap ++ text ++ rest)

theorem Settled.embeds_lossy {texts : List Bytes} (gap : Settled bytes) (text : List Char)
    (behind : Embeds texts (lossy more)) :
    Embeds (utf8 text :: texts) (lossy (bytes ++ utf8 text ++ more)) := by
  rw [List.append_assoc, gap.lossy_append, lossy_utf8_append, ← List.append_assoc]
  exact .cons (lossy bytes) behind

end LoadSeries.Text

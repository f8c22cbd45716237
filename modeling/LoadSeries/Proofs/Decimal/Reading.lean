import LoadSeries.Binary64.Reading
import LoadSeries.Proofs.Text.Numerals
import LoadSeries.Record.MetricValue

/-!
Decimals read back as doubles. The text of a decimal, of whatever sign and places the format has, is
read as the double that was rounded from the decimal itself.
-/
namespace LoadSeries
open Text

namespace Binary64

theorem roundEven_le (num den : Nat) : roundEven num den ≤ num / den + 1 := by
  unfold roundEven
  dsimp only
  split <;> omega

/-- The exponent is that of the leading bits, or one less. -/
theorem binaryExponent_bounds (num den : Nat) :
    (num.log2 : Int) - den.log2 - 1 ≤ binaryExponent num den ∧
      binaryExponent num den ≤ (num.log2 : Int) - den.log2 := by
  unfold binaryExponent
  dsimp only
  split <;> omega

/-- A place is fine enough for 54 bits in front of it if it is not far below the leading bits. -/
theorem mul_twoTo_lt {num den : Nat} {unit : Int} (positive : 0 < den)
    (fine : (num.log2 : Int) - den.log2 - 53 ≤ unit) :
    num * twoTo (-unit).toNat < den * twoTo unit.toNat * twoTo 54 := by
  have top : num < 2 ^ (num.log2 + 1) := Nat.lt_log2_self
  have bottom : 2 ^ den.log2 ≤ den := Nat.log2_self_le (by omega)
  have exponents : num.log2 + 1 + (-unit).toNat ≤ den.log2 + unit.toNat + 54 := by omega
  calc num * 2 ^ (-unit).toNat
      < 2 ^ (num.log2 + 1) * 2 ^ (-unit).toNat :=
        Nat.mul_lt_mul_of_pos_right top (Nat.two_pow_pos _)
    _ = 2 ^ (num.log2 + 1 + (-unit).toNat) := (Nat.pow_add ..).symm
    _ ≤ 2 ^ (den.log2 + unit.toNat + 54) := Nat.pow_le_pow_right (by decide) exponents
    _ = 2 ^ den.log2 * 2 ^ unit.toNat * 2 ^ 54 := by rw [Nat.pow_add, Nat.pow_add]
    _ ≤ den * 2 ^ unit.toNat * 2 ^ 54 :=
        Nat.mul_le_mul_right _ (Nat.mul_le_mul_right _ bottom)

theorem ratioBits_lt_infinityBits {num den : Nat} (positive : 0 < den)
    (small : num.log2 < 1000) : ratioBits num den < infinityBits := by
  unfold ratioBits
  split
  · decide
  dsimp only
  obtain ⟨low, high⟩ := binaryExponent_bounds num den
  generalize found : max (binaryExponent num den - 52) (-1074) = unit
  have scaled := mul_twoTo_lt positive (by omega : (num.log2 : Int) - den.log2 - 53 ≤ unit)
  have quotient : num * twoTo (-unit).toNat / (den * twoTo unit.toNat) < twoTo 54 :=
    Nat.div_lt_of_lt_mul scaled
  have steps := roundEven_le (num * twoTo (-unit).toNat) (den * twoTo unit.toNat)
  have places : (unit + 1074).toNat ≤ 2021 := by omega
  have units := Nat.mul_le_mul_right (twoTo 52) places
  -- The powers are opaque to the arithmetic that is left, which counts in the smallest of them.
  have room : 0 < twoTo 52 := Nat.two_pow_pos 52
  have wide : twoTo 54 = 4 * twoTo 52 := rfl
  have most : infinityBits = 2047 * twoTo 52 := rfl
  rw [most]
  rw [wide] at quotient
  generalize twoTo 52 = step at *
  omega

section Reading

variable {whole fraction rest : List Char}

/-- What is read behind a sign. -/
def magnitude? (negative : Bool) (body : List Char) : Option Binary64 :=
  let (whole, afterWhole) := spanDigits body
  let (fraction, rest) : List Char × List Char := match afterWhole with
    | '.' :: r => spanDigits r
    | r => ([], r)
  if whole.isEmpty && fraction.isEmpty then none
  else
    match readExponent? rest with
    | none => none
    | some exponent =>
      let bits := scientificBits (digitsValue (whole ++ fraction)) (exponent - fraction.length)
      if bits = infinityBits then none
      else some ⟨((if negative then twoTo 63 else 0) + bits).toUInt64⟩

theorem ofText?_minus (body : List Char) : ofText? ('-' :: body) = magnitude? true body := rfl

theorem ofText?_of_digit {c : Char} (digit : isDigit c = true) :
    ofText? (c :: rest) = magnitude? false (c :: rest) := by
  unfold ofText?
  split
  rename_i negative body sign
  split at sign
  · rename_i same
    obtain ⟨rfl, -⟩ := List.cons.inj same
    exact absurd digit (by decide)
  · rename_i same
    obtain ⟨rfl, -⟩ := List.cons.inj same
    exact absurd digit (by decide)
  · cases sign
    rfl

theorem spanDigits_append (rest : List Char) (digit : ∀ c ∈ whole, isDigit c = true)
    (stops : ∀ c ∈ rest.head?, isDigit c = false) :
    spanDigits (whole ++ rest) = (whole, rest) := by
  rw [spanDigits, List.span_eq_takeWhile_dropWhile, List.takeWhile_append_of_pos digit,
    List.dropWhile_append_of_pos digit]
  cases rest with
  | nil => simp
  | cons c rest => simp [stops c rfl]

/-- Digits with a point among them, or with none behind them. -/
theorem magnitude?_of_digits (negative : Bool) (some : whole ≠ [])
    (digit : ∀ c ∈ whole, isDigit c = true) (digit' : ∀ c ∈ fraction, isDigit c = true)
    (pointed : rest = '.' :: fraction ∨ rest = [] ∧ fraction = []) :
    magnitude? negative (whole ++ rest) =
      if scientificBits (digitsValue (whole ++ fraction)) (-(fraction.length : Int)) = infinityBits
      then none
      else .some ⟨((if negative then twoTo 63 else 0) +
        scientificBits (digitsValue (whole ++ fraction)) (-(fraction.length : Int))).toUInt64⟩ := by
  have nonempty : whole.isEmpty = false := by simpa using some
  rcases pointed with rfl | ⟨rfl, rfl⟩
  · have front := spanDigits_append ('.' :: fraction) digit (by simp [isDigit])
    have back := spanDigits_append [] digit' (by simp)
    rw [List.append_nil] at back
    simp [magnitude?, front, back, nonempty, readExponent?]
  · have front := spanDigits_append [] digit (by simp)
    rw [List.append_nil] at front ⊢
    simp [magnitude?, front, nonempty, readExponent?]

theorem scientificBits_of_places {coefficient places : Nat}
    (short : (digits coefficient).length ≤ 100) (few : places ≤ 100) :
    scientificBits coefficient (-(places : Int)) = ratioBits coefficient (tenTo places) := by
  have near : ¬ ((digits coefficient).length + -(places : Int) < -farExponent) := by
    unfold farExponent
    omega
  have near' : ¬ (farExponent < (digits coefficient).length + -(places : Int)) := by
    unfold farExponent
    omega
  unfold scientificBits
  dsimp only
  by_cases zero : coefficient = 0
  · simp [zero, ratioBits]
  · have up : (-(places : Int)).toNat = 0 := by omega
    have down : (- -(places : Int)).toNat = places := by omega
    simp only [zero, near, near', up, down, decide_false, Bool.or_false, Bool.false_eq_true,
      if_false]
    have whole : coefficient * tenTo 0 = coefficient := Nat.mul_one coefficient
    rw [whole]

end Reading

end Binary64

namespace Decimal

variable {x : Decimal} {places : Nat}

/-- The number is one of the format. -/
structure Fits (x : Decimal) : Prop where
  coefficient : x.coefficient.natAbs ≤ maxCoefficient
  scale : x.scale ≤ maxScale

theorem roundHalfUp_le (num : Nat) {den : Nat} (positive : 0 < den) :
    roundHalfUp num den ≤ num := by
  have wide : num ≤ den * num := Nat.le_mul_of_pos_left num positive
  have less : (2 * num + den) / (2 * den) < num + 1 := by
    apply Nat.div_lt_of_lt_mul
    rw [Nat.mul_succ, Nat.mul_assoc]
    omega
  exact Nat.le_of_lt_succ less

theorem natAbs_signed (negative : Bool) (n : Nat) : (signed negative n).natAbs = n := by
  cases negative <;> simp [signed]

theorem tenTo_pos (n : Nat) : 0 < tenTo n := Nat.pow_pos (by decide)

theorem fits_of_ofScientific? {negative : Bool} {number : Scientific}
    (found : ofScientific? negative number = some x) : x.Fits := by
  unfold ofScientific? at found
  dsimp only at found
  split at found
  · cases found
  rename_i small
  split at found
  · rename_i few
    cases found
    exact ⟨by rw [natAbs_signed]; omega, few⟩
  · cases found
    have rounded := roundHalfUp_le (number.coefficient * tenTo number.exponent.toNat)
      (tenTo_pos ((-number.exponent).toNat - maxScale))
    exact ⟨by rw [natAbs_signed]; omega, Nat.le_refl _⟩

theorem Fits.round (fits : x.Fits) (few : places ≤ maxScale) : (x.round places).Fits := by
  unfold Decimal.round
  split
  · exact fits
  · have rounded := roundHalfUp_le x.coefficient.natAbs (tenTo_pos (x.scale - places))
    exact ⟨by rw [natAbs_signed]; exact rounded.trans fits.coefficient, few⟩

theorem Fits.widen (fits : x.Fits) (few : x.scale + places ≤ maxScale) : (x.widen places).Fits := by
  induction places generalizing x with
  | zero => exact fits
  | succ places ih =>
    unfold Decimal.widen
    split
    · rename_i small
      apply ih
      · refine ⟨?_, by simp only; omega⟩
        rwa [Int.natAbs_mul]
      · simp only
        omega
    · exact fits

theorem scale_round_le (x : Decimal) (places : Nat) : (x.round places).scale ≤ places := by
  unfold Decimal.round
  split
  · assumption
  · exact Nat.le_refl _

theorem Fits.toPlaces (fits : x.Fits) (few : places ≤ maxScale) : (x.toPlaces places).Fits := by
  have scale := scale_round_le x places
  exact (fits.round few).widen (by omega)

def pointed (x : Decimal) : List Char :=
  let body := paddedDigits (x.scale + 1) x.coefficient.natAbs
  let split := body.length - x.scale
  if x.scale = 0 then body else body.take split ++ '.' :: body.drop split

theorem text_eq (x : Decimal) :
    x.text = if x.coefficient < 0 then '-' :: x.pointed else x.pointed := rfl

/-- A point stands behind a digit and in front of as many as there are places. -/
theorem exists_parts (x : Decimal) : ∃ whole fraction rest,
    x.pointed = whole ++ rest ∧
      whole ++ fraction = paddedDigits (x.scale + 1) x.coefficient.natAbs ∧ whole ≠ [] ∧
        fraction.length = x.scale ∧ (rest = '.' :: fraction ∨ rest = [] ∧ fraction = []) := by
  unfold pointed
  have length := le_length_paddedDigits (x.scale + 1) x.coefficient.natAbs
  generalize paddedDigits (x.scale + 1) x.coefficient.natAbs = body at *
  dsimp only
  have some : body.take (body.length - x.scale) ≠ [] := by
    apply List.ne_nil_of_length_pos
    rw [List.length_take]
    omega
  split
  · rename_i zero
    refine ⟨body, [], [], (List.append_nil body).symm, List.append_nil body, ?_, zero.symm,
      .inr ⟨rfl, rfl⟩⟩
    exact List.ne_nil_of_length_pos (by omega)
  · refine ⟨_, body.drop (body.length - x.scale), _, rfl, List.take_append_drop .., some, ?_,
      .inl rfl⟩
    rw [List.length_drop]
    omega

theorem ratioBits_ne_infinityBits (fits : x.Fits) :
    Binary64.ratioBits x.coefficient.natAbs (tenTo x.scale) ≠ Binary64.infinityBits := by
  have coefficient : x.coefficient.natAbs ≤ twoTo 96 - 1 := fits.coefficient
  have small : x.coefficient.natAbs.log2 < 1000 := by
    rcases Nat.eq_zero_or_pos x.coefficient.natAbs with zero | positive
    · rw [zero]
      decide
    · have below : x.coefficient.natAbs < 2 ^ 96 := coefficient.trans_lt (by decide)
      exact ((Nat.log2_lt (by omega)).mpr below).trans (by decide)
  exact Nat.ne_of_lt (Binary64.ratioBits_lt_infinityBits (tenTo_pos x.scale) small)

theorem magnitude?_pointed (fits : x.Fits) (negative : Bool) :
    Binary64.magnitude? negative x.pointed = some ⟨((if negative then twoTo 63 else 0) +
      Binary64.ratioBits x.coefficient.natAbs (tenTo x.scale)).toUInt64⟩ := by
  have scale : x.scale ≤ 28 := fits.scale
  have coefficient : x.coefficient.natAbs ≤ twoTo 96 - 1 := fits.coefficient
  have short : (digits x.coefficient.natAbs).length ≤ 28 + 1 :=
    length_digits_le (coefficient.trans_lt (by decide))
  obtain ⟨whole, fraction, rest, shown, row, some, places, pointed⟩ := x.exists_parts
  have digit : ∀ c ∈ whole ++ fraction, isDigit c = true := fun c member =>
    isDigit_of_mem_paddedDigits (row ▸ member)
  have value : digitsValue (whole ++ fraction) = x.coefficient.natAbs := by
    rw [row, digitsValue_paddedDigits]
  have bits := Binary64.scientificBits_of_places (short.trans (by decide))
    (scale.trans (by decide : 28 ≤ 100))
  have read := Binary64.magnitude?_of_digits negative some
    (fun c member => digit c (List.mem_append_left _ member))
    (fun c member => digit c (List.mem_append_right _ member)) pointed
  rw [shown, read, value, places, bits, if_neg (ratioBits_ne_infinityBits fits)]

/-- The text of a decimal is read as the double nearest to the decimal. -/
theorem ofText?_text (fits : x.Fits) : Binary64.ofText? x.text = some x.toBinary64 := by
  rw [text_eq, toBinary64, Binary64.ofSignedRatio]
  split
  · rw [Binary64.ofText?_minus, magnitude?_pointed fits, if_pos rfl]
  · obtain ⟨whole, fraction, rest, shown, row, some, -⟩ := x.exists_parts
    obtain ⟨c, tail, rfl⟩ := List.exists_cons_of_ne_nil some
    have member : c ∈ c :: tail ++ fraction := List.mem_cons_self
    rw [row] at member
    have first : isDigit c = true := isDigit_of_mem_paddedDigits member
    have read := magnitude?_pointed fits false
    rw [shown, List.cons_append] at read ⊢
    rw [Binary64.ofText?_of_digit first, read]
    simp

end Decimal

/-- A metric value has a text that is read as its double. -/
theorem MetricValue.ofText?_text {raw : Binary64} {value : MetricValue}
    (made : ofBinary64 raw = .ok value) : Binary64.ofText? value.text = some value.double := by
  unfold ofBinary64 at made
  split at made
  · split at made
    · rename_i exact' found
      cases made
      exact Decimal.ofText?_text
        ((Decimal.fits_of_ofScientific? found).toPlaces (by decide : places ≤ Decimal.maxScale))
    · cases made
  · cases made

end LoadSeries

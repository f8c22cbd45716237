import LoadSeries.Text.Blank
import Mathlib

/-!
Trimming. A trimmed text is what neither begins nor ends with white space, and has nothing but
white space on both sides of it.
-/
namespace LoadSeries.Text

structure Trimmed (text : List Char) : Prop where
  first : ∀ c ∈ text.head?, isBlank c = false
  last : ∀ c ∈ text.getLast?, isBlank c = false

def AllBlank (text : List Char) : Prop := ∀ c ∈ text, isBlank c = true

variable {text middle front back : List Char}

theorem trimStart_append (blank : AllBlank front) (rest : List Char) :
    trimStart (front ++ rest) = trimStart rest :=
  List.dropWhile_append_of_pos blank

theorem trimStart_of_first (first : ∀ c ∈ text.head?, isBlank c = false) :
    trimStart text = text := by
  cases text with
  | nil => rfl
  | cons c rest =>
    have here : isBlank c = false := first c rfl
    apply List.dropWhile_cons_of_neg
    rw [here]
    exact Bool.false_ne_true

theorem trimEnd_eq (text : List Char) : trimEnd text = (trimStart text.reverse).reverse := rfl

theorem trimEnd_append (blank : AllBlank back) (text : List Char) :
    trimEnd (text ++ back) = trimEnd text := by
  rw [trimEnd_eq, List.reverse_append, trimStart_append, ← trimEnd_eq]
  intro c member
  exact blank c (List.mem_reverse.mp member)

theorem trimEnd_of_last (last : ∀ c ∈ text.getLast?, isBlank c = false) :
    trimEnd text = text := by
  rw [trimEnd_eq, trimStart_of_first, List.reverse_reverse]
  rwa [List.head?_reverse]

theorem trim_append (trimmed : Trimmed middle) (before : AllBlank front) (behind : AllBlank back) :
    trim (front ++ middle ++ back) = middle := by
  rw [trim, List.append_assoc, trimStart_append before]
  cases middle with
  | nil =>
    have none : trimStart back = [] := List.dropWhile_eq_nil_iff.mpr behind
    rw [List.nil_append, none]
    rfl
  | cons c rest =>
    have first : ∀ d ∈ (c :: rest ++ back).head?, isBlank d = false := trimmed.first
    rw [trimStart_of_first first, trimEnd_append behind, trimEnd_of_last trimmed.last]

theorem exists_trimStart (text : List Char) :
    ∃ front, AllBlank front ∧ text = front ++ trimStart text := by
  refine ⟨text.takeWhile isBlank, ?_, List.takeWhile_append_dropWhile.symm⟩
  intro c member
  exact List.mem_takeWhile_imp member

theorem exists_trimEnd (text : List Char) :
    ∃ back, AllBlank back ∧ text = trimEnd text ++ back := by
  obtain ⟨front, blank, same⟩ := exists_trimStart text.reverse
  refine ⟨front.reverse, ?_, ?_⟩
  · intro c member
    exact blank c (List.mem_reverse.mp member)
  · rw [trimEnd_eq, ← List.reverse_append, ← same, List.reverse_reverse]

theorem first_trimStart (text : List Char) : ∀ c ∈ (trimStart text).head?, isBlank c = false := by
  intro c member
  have found : text.find? (!isBlank ·) = some c := by
    rw [List.find?_not_eq_head?_dropWhile]
    exact member
  simpa using List.find?_some found

theorem trimmed_trim (text : List Char) : Trimmed (trim text) where
  first := by
    intro c member
    obtain ⟨back, -, same⟩ := exists_trimEnd (trimStart text)
    apply first_trimStart text c
    rw [same]
    exact List.mem_head?_append_of_mem_head? member
  last := by
    intro c member
    apply first_trimStart (trimStart text).reverse c
    rwa [trim, trimEnd_eq, List.getLast?_reverse] at member

theorem trim_eq_iff : trim text = middle ↔ Trimmed middle ∧
    ∃ front back, AllBlank front ∧ AllBlank back ∧ text = front ++ middle ++ back := by
  constructor
  · rintro rfl
    obtain ⟨front, before, start⟩ := exists_trimStart text
    obtain ⟨back, behind, stop⟩ := exists_trimEnd (trimStart text)
    refine ⟨trimmed_trim text, front, back, before, behind, ?_⟩
    rw [List.append_assoc, trim, ← stop, ← start]
  · rintro ⟨trimmed, front, back, before, behind, rfl⟩
    exact trim_append trimmed before behind

end LoadSeries.Text

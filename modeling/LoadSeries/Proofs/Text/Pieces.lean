import LoadSeries.Record.Line
import Mathlib

/-!
Texts that are joined and cut again. What is joined by a mark that no piece holds is cut into those
pieces, and a row of pieces with the mark behind each is cut into the pieces and an empty rest. A
piece that holds the mark is cut into more.
-/
namespace LoadSeries

namespace Line

variable {separator : Char} {texts : List (List Char)}

theorem join_eq_intercalate (separator : Char) (texts : List (List Char)) :
    join separator texts = [separator].intercalate texts := by
  induction texts with
  | nil => rfl
  | cons text rest ih =>
    cases rest with
    | nil => rw [join, List.intercalate_singleton]
    | cons next rest =>
      rw [join, ih, List.intercalate_cons_cons, List.append_assoc]
      · rfl
      · simp

theorem cut_eq_splitOn (separator : Char) (text : List Char) :
    cut separator text = text.splitOn separator := by
  induction text with
  | nil => rw [cut, List.splitOn_nil]
  | cons c rest ih =>
    rw [cut, List.splitOn_cons_eq_if_modifyHead, ih]
    by_cases mark : c = separator
    · rw [if_pos mark, if_pos (beq_iff_eq.mpr mark)]
    · rw [if_neg mark, if_neg (mt beq_iff_eq.mp mark)]
      cases pieces : rest.splitOn separator with
      | nil => exact absurd pieces (List.splitOn_ne_nil _ _)
      | cons text texts => rfl

theorem cut_join (some : texts ≠ []) (free : ∀ text ∈ texts, separator ∉ text) :
    cut separator (join separator texts) = texts := by
  rw [cut_eq_splitOn, join_eq_intercalate]
  exact List.splitOn_intercalate separator free some

theorem mem_join_iff {c : Char} (other : c ≠ separator) :
    c ∈ join separator texts ↔ ∃ text ∈ texts, c ∈ text := by
  induction texts with
  | nil => simp [join]
  | cons text rest ih =>
    cases rest with
    | nil => simp [join]
    | cons next rest =>
      rw [join, List.mem_append, List.mem_cons, ih, List.exists_mem_cons_iff]
      · simp [other]
      · simp

end Line

namespace Text

variable {α : Type} [DecidableEq α] {mark : α}

theorem splitOn_terminated (mark : α) (rows : List (List α)) :
    ((rows.map (· ++ [mark])).flatten).splitOn mark =
      rows.flatMap (·.splitOn mark) ++ [[]] := by
  induction rows with
  | nil => exact List.splitOn_nil mark
  | cons row rest ih =>
    rw [List.map_cons, List.flatten_cons, List.append_assoc, List.singleton_append,
      List.splitOn_append_cons_self, ih, List.flatMap_cons, List.append_assoc]

theorem splitOn_terminated_of_free {rows : List (List α)} (free : ∀ row ∈ rows, mark ∉ row) :
    ((rows.map (· ++ [mark])).flatten).splitOn mark = rows ++ [[]] := by
  rw [splitOn_terminated]
  congr 1
  induction rows with
  | nil => rfl
  | cons row rest ih =>
    have here : mark ∉ row := free row List.mem_cons_self
    have later := ih fun other member => free other (List.mem_cons_of_mem _ member)
    rw [List.flatMap_cons, List.splitOn_eq_singleton here, later]
    rfl

theorem length_splitOn_pos (mark : α) (row : List α) : 1 ≤ (row.splitOn mark).length :=
  List.length_pos_of_ne_nil (List.splitOn_ne_nil mark row)

theorem not_mem_of_length_splitOn {row : List α} (single : (row.splitOn mark).length = 1) :
    mark ∉ row := by
  intro held
  obtain ⟨front, back, rfl⟩ := List.append_of_mem held
  have before := length_splitOn_pos mark front
  have behind := length_splitOn_pos mark back
  rw [List.splitOn_append_cons_self, List.length_append] at single
  omega

theorem length_le_flatMap_splitOn (mark : α) (rows : List (List α)) :
    rows.length ≤ (rows.flatMap (·.splitOn mark)).length := by
  induction rows with
  | nil => exact Nat.le_refl 0
  | cons row rest ih =>
    have here := length_splitOn_pos mark row
    rw [List.flatMap_cons, List.length_append, List.length_cons]
    omega

/-- Rows that are cut into no more pieces than there are rows hold no mark. -/
theorem free_of_length_flatMap_splitOn {rows : List (List α)}
    (few : (rows.flatMap (·.splitOn mark)).length ≤ rows.length) : ∀ row ∈ rows, mark ∉ row := by
  induction rows with
  | nil => exact fun row none => absurd none List.not_mem_nil
  | cons row rest ih =>
    have here := length_splitOn_pos mark row
    have later := length_le_flatMap_splitOn mark rest
    rw [List.flatMap_cons, List.length_append, List.length_cons] at few
    intro other member
    rcases List.mem_cons.mp member with rfl | inside
    · apply not_mem_of_length_splitOn
      omega
    · apply ih
      · omega
      · exact inside

end Text

end LoadSeries

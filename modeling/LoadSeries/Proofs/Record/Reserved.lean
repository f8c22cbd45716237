import LoadSeries.Proofs.Except
import LoadSeries.Proofs.Text.Digits
import LoadSeries.Record.Encoding

/-!
Which records can be encoded. The fields apart, it is the tags that decide, and for points the
metric: numbers are written without reserved characters. If there is a reserved character, the
record is refused for the first one of the first label that holds any.
-/
namespace LoadSeries
open Text

/-- No label's text holds a reserved character; a label is a name with a text. -/
def Unreserved (reserved : Char → Bool) (labels : List (String × String)) : Prop :=
  ∀ label ∈ labels, ∀ c ∈ label.2.toList, reserved c = false

/-- The first label whose text holds a reserved character, and the first such character in it. -/
structure FirstReserved (reserved : Char → Bool) (labels : List (String × String))
    (name value : String) (character : Char) : Prop where
  label : ∃ before after, labels = before ++ (name, value) :: after ∧ Unreserved reserved before
  place : ∃ front back, value.toList = front ++ character :: back ∧
    ∀ c ∈ front, reserved c = false
  reserved : reserved character = true

section Labels

variable {reserved : Char → Bool} {labels others : List (String × String)} {name value : String}
  {character : Char}

theorem unreserved_iff_all : Unreserved reserved labels ↔
    labels.all (fun label => label.2.toList.all fun c => reserved c = false) = true := by
  simp only [Unreserved, List.all_eq_true, decide_eq_true_eq]

instance : Decidable (Unreserved reserved labels) := decidable_of_iff' _ unreserved_iff_all

theorem Unreserved.append (first : Unreserved reserved labels)
    (second : Unreserved reserved others) : Unreserved reserved (labels ++ others) := by
  intro label member
  rcases List.mem_append.mp member with earlier | later
  · exact first label earlier
  · exact second label later

theorem find?_eq_none_of_unreserved {text : String}
    (unreserved : ∀ c ∈ text.toList, reserved c = false) : text.toList.find? reserved = none := by
  rw [List.find?_eq_none]
  intro c member
  simp [unreserved c member]

namespace FirstReserved

variable (first : FirstReserved reserved labels name value character)
include first

theorem mem_labels : (name, value) ∈ labels := by
  obtain ⟨before, after, rfl, -⟩ := first.label
  simp

theorem mem_value : character ∈ value.toList := by
  obtain ⟨front, back, same, -⟩ := first.place
  simp [same]

theorem not_unreserved : ¬ Unreserved reserved labels := by
  intro unreserved
  have free := unreserved _ first.mem_labels _ first.mem_value
  rw [first.reserved] at free
  cases free

theorem append (others : List (String × String)) :
    FirstReserved reserved (labels ++ others) name value character := by
  obtain ⟨⟨before, after, same, unreserved⟩, place, reserved⟩ := first
  refine ⟨⟨before, after ++ others, ?_, unreserved⟩, place, reserved⟩
  rw [same, List.append_assoc, List.cons_append]

theorem find?_eq_some : value.toList.find? reserved = some character := by
  obtain ⟨front, back, same, free⟩ := first.place
  rw [List.find?_eq_some_iff_append]
  refine ⟨first.reserved, front, back, same, fun c member => ?_⟩
  simp [free c member]

end FirstReserved

theorem unreserved_or_firstReserved (reserved : Char → Bool) (labels : List (String × String)) :
    Unreserved reserved labels ∨
      ∃ name value character, FirstReserved reserved labels name value character := by
  induction labels with
  | nil => exact .inl (by simp [Unreserved])
  | cons label rest ih =>
    cases found : label.2.toList.find? reserved with
    | some c =>
      obtain ⟨held, front, back, same, free⟩ := List.find?_eq_some_iff_append.mp found
      refine .inr ⟨label.1, label.2, c, ⟨[], rest, rfl, by simp [Unreserved]⟩, ⟨front, back, same,
        fun d member => ?_⟩, held⟩
      simpa using free d member
    | none =>
      have free : Unreserved reserved [label] := by
        intro other member
        rw [List.mem_singleton.mp member]
        intro c inside
        simpa using List.find?_eq_none.mp found c inside
      rcases ih with unreserved | ⟨name, value, c, ⟨before, after, same, earlier⟩, place, held⟩
      · exact .inl (free.append unreserved)
      · exact .inr ⟨name, value, c, ⟨label :: before, after, by rw [same]; rfl,
          free.append earlier⟩, place, held⟩

end Labels

namespace SeriesKey

variable {labels : List (String × String)} {name value : String} {character : Char}

theorem checkAll_of_unreserved (unreserved : Unreserved isDelimiter labels) :
    checkAll labels = .ok () := by
  induction labels with
  | nil => rfl
  | cons label rest ih =>
    have none := find?_eq_none_of_unreserved (unreserved label List.mem_cons_self)
    have later := ih fun other member => unreserved other (List.mem_cons_of_mem _ member)
    simp only [checkAll, check, none, later]
    rfl

theorem checkAll_of_firstReserved
    (first : FirstReserved isDelimiter labels name value character) :
    checkAll labels = .error (.reservedCharacter name value character) := by
  have found := first.find?_eq_some
  obtain ⟨before, after, rfl, unreserved⟩ := first.label
  clear first
  induction before with
  | nil =>
    simp only [List.nil_append, checkAll, check, found]
    rfl
  | cons label rest ih =>
    have none := find?_eq_none_of_unreserved (unreserved label List.mem_cons_self)
    have later := ih fun other member => unreserved other (List.mem_cons_of_mem _ member)
    simp only [List.cons_append, checkAll, check, none]
    exact later

theorem isDelimiter_of_isDigit {c : Char} (digit : isDigit c = true) : isDelimiter c = false := by
  cases held : isDelimiter c with
  | false => rfl
  | true =>
    simp only [isDelimiter, Bool.or_eq_true, beq_iff_eq] at held
    rcases held with rfl | rfl <;> cases digit

end SeriesKey

namespace Line

variable {separator : Char} {record : Record} {catalog : Catalog} {name value : String}
  {character : Char}

theorem not_contains_of_plain {text : List Char} (free : isReserved separator = false)
    (plain : ∀ c ∈ text, isDigit c = true ∨ c = '.' ∨ c = '-') :
    text.contains separator = false := by
  rw [List.contains_eq_mem, decide_eq_false_iff_not]
  intro member
  simp only [isReserved, Bool.or_eq_false_iff, beq_eq_false_iff_ne] at free
  obtain ⟨⟨⟨⟨⟨digit, point⟩, minus⟩, -⟩, -⟩, -⟩ := free
  rcases plain separator member with held | held | held
  · rw [digit] at held
    cases held
  · exact point held
  · exact minus held

/-- No column but those of the tags can hold a separator that is not reserved. -/
theorem firstOffender?_columns (free : isReserved separator = false) :
    firstOffender? separator (columns record catalog) =
      (record.tags.columns.find? fun column => column.2.toList.contains separator).map
        fun column => ⟨column.1, column.2.toList⟩ := by
  have number (n : Int) : (intText n).contains separator = false :=
    not_contains_of_plain free fun c member =>
      (isDigit_or_of_mem_intText member).imp_right .inr
  have front : firstOffender? separator [⟨"timestamp", intText record.timestamp.toInt⟩,
      ⟨"user_id", intText record.user.toInt⟩] = none := by
    simp [firstOffender?, -List.contains_eq_mem, number]
  have back : firstOffender? separator (List.zipWith (fun name value => ⟨name, value.text⟩)
      catalog.names record.values) = none := by
    refine List.find?_eq_none.mpr fun column member => ?_
    obtain ⟨i, inside, rfl⟩ := List.mem_iff_getElem.mp member
    have valued : i < record.values.length := by
      rw [List.length_zipWith] at inside
      omega
    have plain : (record.values[i].text).contains separator = false :=
      not_contains_of_plain free fun c inside => Decimal.isDigit_or_of_mem_text inside
    rw [List.getElem_zipWith, plain]
    exact Bool.false_ne_true
  unfold firstOffender? at front back ⊢
  unfold columns
  rw [List.find?_append, List.find?_append, front, back, Option.none_or, Option.or_none,
    List.find?_map]
  rfl

theorem firstOffender?_of_unreserved (free : isReserved separator = false)
    (unreserved : Unreserved (· == separator) record.tags.columns) :
    firstOffender? separator (columns record catalog) = none := by
  have none : (record.tags.columns.find? fun column => column.2.toList.contains separator) =
      none := by
    refine List.find?_eq_none.mpr fun column member => ?_
    simp only [List.contains_eq_mem, decide_eq_true_eq]
    intro held
    simpa using unreserved column member separator held
  rw [firstOffender?_columns free, none]
  rfl

theorem firstOffender?_of_firstReserved (free : isReserved separator = false)
    (first : FirstReserved (· == separator) record.tags.columns name value character) :
    firstOffender? separator (columns record catalog) = some ⟨name, value.toList⟩ ∧
      character = separator := by
  have same : character = separator := by simpa using first.reserved
  obtain ⟨before, after, split, earlier⟩ := first.label
  have found : (record.tags.columns.find? fun column => column.2.toList.contains separator) =
      some (name, value) := by
    rw [List.find?_eq_some_iff_append]
    refine ⟨by simpa [same] using first.mem_value, before, after, split, fun column member => ?_⟩
    simp only [List.contains_eq_mem, Bool.not_eq_true', decide_eq_false_iff_not]
    intro held
    simpa using earlier column member separator held
  rw [firstOffender?_columns free, found]
  exact ⟨rfl, same⟩

end Line

end LoadSeries

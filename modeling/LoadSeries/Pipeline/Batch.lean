import LoadSeries.Text.Utf8

/-! A batch that is being filled: records in the order in which they came, and their number. -/
namespace LoadSeries

open Text

structure Batch where
  newestFirst : List Bytes
  size : Nat
  size_eq : size = newestFirst.length := by rfl

namespace Batch

def empty : Batch := ⟨[], 0, rfl⟩

def push (x : Batch) (record : Bytes) : Batch :=
  ⟨record :: x.newestFirst, x.size + 1, by simp [x.size_eq]⟩

def toList (x : Batch) : List Bytes := x.newestFirst.reverse

@[simp] theorem size_empty : empty.size = 0 := rfl

@[simp] theorem size_push (x : Batch) (record : Bytes) : (x.push record).size = x.size + 1 := rfl

@[simp] theorem toList_empty : empty.toList = [] := rfl

@[simp] theorem toList_push (x : Batch) (record : Bytes) :
    (x.push record).toList = x.toList ++ [record] := by
  simp [push, toList]

theorem length_toList (x : Batch) : x.toList.length = x.size := by
  simp [toList, x.size_eq]

end Batch

end LoadSeries

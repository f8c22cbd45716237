import LoadSeries.Dataset.Error

/-! The ordered list of metric fields that every record carries. -/
namespace LoadSeries

structure Catalog where
  names : List String
deriving DecidableEq, Repr

namespace Catalog

def firstRepeat? (seen : List String) : List String → Option String
  | [] => none
  | name :: rest => if name ∈ seen then some name else firstRepeat? (name :: seen) rest

/-- A catalog of names, of which there must be one and none twice. -/
def ofNames (names : List String) : Except ConfigError Catalog :=
  if names.isEmpty then .error .emptyFieldCatalog
  else match firstRepeat? [] names with
    | some name => .error (.duplicateField name)
    | none => .ok ⟨names⟩

def size (x : Catalog) : Nat := x.names.length

def isEmpty (x : Catalog) : Bool := x.names.isEmpty

end Catalog

end LoadSeries

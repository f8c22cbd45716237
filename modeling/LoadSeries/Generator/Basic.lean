import LoadSeries.Generator.Cursor
import LoadSeries.Generator.Recipe

/-! The generator: it walks a data set record by record and draws their values from one stream. -/
namespace LoadSeries

open Text

structure Generator where
  recipe : Recipe
  cursor : Cursor
  place : Nat
  produced : Nat
deriving DecidableEq, Repr

namespace Generator

def ofRecipe (recipe : Recipe) : Generator := ⟨recipe, .origin, 0, 0⟩

def remaining (x : Generator) : Nat := x.recipe.cadence.totalRecords - x.produced

def sizeBounds (x : Generator) : Nat × Nat := (x.remaining, x.remaining)

/-- The next record, if there is one. The cursor moves on before the values are drawn. -/
def nextRecord (x : Generator) : Except EncodingError (Option Record) × Generator :=
  let cadence := x.recipe.cadence
  match x.cursor.user? cadence.firstUser cadence.lastUser with
  | none => (.ok none, x)
  | some user =>
    let passed := { x with cursor := x.cursor.advance cadence.samplesPerUser.toNat }
    let fields := x.recipe.catalog.size
    match x.recipe.record user x.cursor.sample x.place with
    | .error e =>
      (.error e, { passed with place := x.place + Random.spent x.recipe.key x.place fields })
    | .ok record =>
      (.ok (some record), { passed with place := x.place + fields, produced := x.produced + 1 })

def advance (x : Generator) : Except EncodingError (Option Bytes) × Generator :=
  match x.nextRecord with
  | (.error e, rest) => (.error e, rest)
  | (.ok none, rest) => (.ok none, rest)
  | (.ok (some record), rest) => ((x.recipe.encode record).map some, rest)

def next? (x : Generator) : Option (Except EncodingError Bytes) × Generator :=
  match x.advance with
  | (.error e, rest) => (some (.error e), rest)
  | (.ok none, rest) => (none, rest)
  | (.ok (some bytes), rest) => (some (.ok bytes), rest)

end Generator

end LoadSeries

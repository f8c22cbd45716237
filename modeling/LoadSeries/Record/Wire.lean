import LoadSeries.Text.Utf8

/-!
Messages of numbered fields: each field is a tag, which holds its number and its form, and then
either a number in groups of seven bits or a run of bytes behind its length.
-/
namespace LoadSeries.Wire

open Text

/-- A number in bytes of seven bits each, the lowest first; all but the last have the high bit. -/
def number (n : Nat) : Bytes :=
  if n < 128 then [n.toUInt8] else (n % 128 + 128).toUInt8 :: number (n / 128)
termination_by n
decreasing_by omega

inductive Content where
  | number (value : Nat)
  | run (bytes : Bytes)
deriving DecidableEq, Repr

structure Field where
  index : Nat
  content : Content
deriving DecidableEq, Repr

def Field.bytes (x : Field) : Bytes :=
  match x.content with
  | .number value => number (8 * x.index) ++ number value
  | .run bytes => number (8 * x.index + 2) ++ number bytes.length ++ bytes

def message (fields : List Field) : Bytes := fields.flatMap Field.bytes

def word (n : Int64) : Nat := n.toUInt64.toNat

def takeNumber? : Bytes → Option (Nat × Bytes)
  | [] => none
  | b :: rest =>
    if b.toNat < 128 then some (b.toNat, rest)
    else (takeNumber? rest).map fun (high, rest) => (b.toNat - 128 + 128 * high, rest)

def takeField? (bytes : Bytes) : Option (Field × Bytes) := do
  let (tag, rest) ← takeNumber? bytes
  if tag % 8 = 0 then
    let (value, rest) ← takeNumber? rest
    return (⟨tag / 8, .number value⟩, rest)
  else if tag % 8 = 2 then
    let (length, rest) ← takeNumber? rest
    if length ≤ rest.length then
      return (⟨tag / 8, .run (rest.take length)⟩, rest.drop length)
    else none
  else none

theorem length_takeNumber? {bytes rest : Bytes} {n : Nat}
    (taken : takeNumber? bytes = some (n, rest)) : rest.length < bytes.length := by
  induction bytes generalizing n rest with
  | nil => simp [takeNumber?] at taken
  | cons b tail ih =>
    unfold takeNumber? at taken
    split at taken
    · simp only [Option.some.injEq, Prod.mk.injEq] at taken
      simp [← taken.2]
    · obtain ⟨⟨high, rest'⟩, found, eq⟩ := Option.map_eq_some_iff.1 taken
      simp only [Prod.mk.injEq] at eq
      have := ih found
      simp only [List.length_cons, ← eq.2]
      omega

theorem length_takeField? {bytes rest : Bytes} {field : Field}
    (taken : takeField? bytes = some (field, rest)) : rest.length < bytes.length := by
  unfold takeField? at taken
  cases first : takeNumber? bytes with
  | none => simp [first] at taken
  | some tag =>
    have shorter := length_takeNumber? first
    simp only [first, Option.bind_eq_bind, Option.bind_some] at taken
    split at taken
    · cases second : takeNumber? tag.2 with
      | none => simp [second] at taken
      | some value =>
        have := length_takeNumber? second
        simp only [second, Option.bind_some, Option.pure_def, Option.some.injEq,
          Prod.mk.injEq] at taken
        rw [← taken.2]
        omega
    · split at taken
      · cases second : takeNumber? tag.2 with
        | none => simp [second] at taken
        | some length =>
          have := length_takeNumber? second
          simp only [second, Option.bind_some, Option.pure_def] at taken
          split at taken
          · simp only [Option.some.injEq, Prod.mk.injEq] at taken
            rw [← taken.2]
            simp only [List.length_drop]
            omega
          · simp at taken
      · simp at taken

def fields? (bytes : Bytes) : Option (List Field) :=
  match bytes with
  | [] => some []
  | b :: tail =>
    match taken : takeField? (b :: tail) with
    | none => none
    | some (field, rest) =>
      have : rest.length < (b :: tail).length := length_takeField? taken
      (fields? rest).map (field :: ·)
termination_by bytes.length
decreasing_by exact this

end LoadSeries.Wire

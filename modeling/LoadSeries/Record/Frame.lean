import LoadSeries.Text.Utf8

/-! Messages behind their lengths, so that a run of them can be walked. -/
namespace LoadSeries.Frame

open Text

def headerSize : Nat := 8

def littleEndian : Nat → Nat → Bytes
  | 0, _ => []
  | size + 1, n => n.toUInt8 :: littleEndian size (n / 256)

def littleEndianValue : Bytes → Nat
  | [] => 0
  | b :: rest => b.toNat + 256 * littleEndianValue rest

def encode (message : Bytes) : Bytes := littleEndian headerSize message.length ++ message

/-- The messages that lie wholly within a run of frames, up to the first that does not. -/
def walk (bytes : Bytes) : List Bytes :=
  if headerSize ≤ bytes.length then
    let length := littleEndianValue (bytes.take headerSize)
    let rest := bytes.drop headerSize
    if length ≤ rest.length then rest.take length :: walk (rest.drop length) else []
  else []
termination_by bytes.length
decreasing_by simp only [List.length_drop]; simp only [headerSize] at *; omega

end LoadSeries.Frame

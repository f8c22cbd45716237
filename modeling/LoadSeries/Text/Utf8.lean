/-! UTF-8: writing characters as bytes, and reading bytes strictly or with replacement. -/
namespace LoadSeries.Text

abbrev Bytes := List UInt8

def utf8 (text : List Char) : Bytes := text.flatMap String.utf8EncodeChar

def stringBytes (s : String) : Bytes := utf8 s.toList

def isContinuation (b : UInt8) : Bool := 0x80 ≤ b && b ≤ 0xBF

/-- The range of the second byte of a character of three bytes, by its first byte. -/
def isSecondOfThree (first second : UInt8) : Bool :=
  if first == 0xE0 then 0xA0 ≤ second && second ≤ 0xBF
  else if first == 0xED then 0x80 ≤ second && second ≤ 0x9F
  else isContinuation second

/-- The range of the second byte of a character of four bytes, by its first byte. -/
def isSecondOfFour (first second : UInt8) : Bool :=
  if first == 0xF0 then 0x90 ≤ second && second ≤ 0xBF
  else if first == 0xF4 then 0x80 ≤ second && second ≤ 0x8F
  else isContinuation second

private def low (b : UInt8) : Nat := b.toNat % 64

/-- What stands at the front of a run of bytes: a character with the bytes behind it, or a faulty
run, of which the longest part that could begin a character is taken. -/
inductive Front where
  | nothing
  | char (c : Char) (rest : Bytes)
  | fault (rest : Bytes)

def front : Bytes → Front
  | [] => .nothing
  | a :: rest =>
    if a < 0x80 then .char (Char.ofNat a.toNat) rest
    else if 0xC2 ≤ a && a ≤ 0xDF then
      match rest with
      | b :: afterTwo =>
        if isContinuation b then .char (Char.ofNat ((a.toNat % 32) * 64 + low b)) afterTwo
        else .fault rest
      | [] => .fault []
    else if 0xE0 ≤ a && a ≤ 0xEF then
      match rest with
      | b :: afterTwo =>
        if isSecondOfThree a b then
          match afterTwo with
          | c :: afterThree =>
            if isContinuation c then
              .char (Char.ofNat (((a.toNat % 16) * 64 + low b) * 64 + low c)) afterThree
            else .fault afterTwo
          | [] => .fault []
        else .fault rest
      | [] => .fault []
    else if 0xF0 ≤ a && a ≤ 0xF4 then
      match rest with
      | b :: afterTwo =>
        if isSecondOfFour a b then
          match afterTwo with
          | c :: afterThree =>
            if isContinuation c then
              match afterThree with
              | d :: afterFour =>
                if isContinuation d then
                  .char (Char.ofNat ((((a.toNat % 8) * 64 + low b) * 64 + low c) * 64 + low d))
                    afterFour
                else .fault afterThree
              | [] => .fault []
            else .fault afterTwo
          | [] => .fault []
        else .fault rest
      | [] => .fault []
    else .fault rest

def Front.rest : Front → Bytes
  | .nothing => []
  | .char _ rest => rest
  | .fault rest => rest

theorem length_rest_front_cons (a : UInt8) (bytes : Bytes) :
    (front (a :: bytes)).rest.length ≤ bytes.length := by
  unfold front
  repeat' split
  all_goals simp_all [Front.rest]
  all_goals omega

theorem length_rest_front {bytes : Bytes} (nonempty : bytes ≠ []) :
    (front bytes).rest.length < bytes.length := by
  cases bytes with
  | nil => contradiction
  | cons a rest => exact Nat.lt_succ_of_le (length_rest_front_cons a rest)

def replacement : Char := Char.ofNat 0xFFFD

def lossyText (bytes : Bytes) : List Char :=
  match found : front bytes with
  | .nothing => []
  | .char c rest =>
    have : rest.length < bytes.length := by
      have := @length_rest_front bytes (by rintro rfl; simp [front] at found)
      simpa [found, Front.rest] using this
    c :: lossyText rest
  | .fault rest =>
    have : rest.length < bytes.length := by
      have := @length_rest_front bytes (by rintro rfl; simp [front] at found)
      simpa [found, Front.rest] using this
    replacement :: lossyText rest
termination_by bytes.length

def strictText? (bytes : Bytes) : Option (List Char) :=
  match found : front bytes with
  | .nothing => some []
  | .char c rest =>
    have : rest.length < bytes.length := by
      have := @length_rest_front bytes (by rintro rfl; simp [front] at found)
      simpa [found, Front.rest] using this
    (strictText? rest).map (c :: ·)
  | .fault _ => none
termination_by bytes.length

def lossy (bytes : Bytes) : Bytes := utf8 (lossyText bytes)

end LoadSeries.Text

import LoadSeries.Record.Frame
import Mathlib

/-!
A run of frames can be read without anything between them. A walk over whole frames gives back their
messages and stops at the last byte; a walk over frames that are cut off somewhere gives the
messages in front of the cut, and stops at the frame that it goes through.
-/
namespace LoadSeries.Frame
open Text

def stream (messages : List Bytes) : Bytes := messages.flatMap encode

/-- The bytes behind the last message of a walk. -/
def remainder (bytes : Bytes) : Bytes :=
  if headerSize ≤ bytes.length then
    let length := littleEndianValue (bytes.take headerSize)
    let rest := bytes.drop headerSize
    if length ≤ rest.length then remainder (rest.drop length) else bytes
  else bytes
termination_by bytes.length
decreasing_by simp only [List.length_drop]; simp only [headerSize] at *; omega

/-- Bytes that do not begin with a whole frame: there is less than a header, or less behind the
header than it says. -/
def Cut (bytes : Bytes) : Prop :=
  bytes.length < headerSize ∨
    (bytes.drop headerSize).length < littleEndianValue (bytes.take headerSize)

/-- Messages whose lengths a header can hold. -/
def Fit (messages : List Bytes) : Prop := ∀ message ∈ messages, message.length < 2 ^ 64

instance (messages : List Bytes) : Decidable (Fit messages) :=
  inferInstanceAs (Decidable (∀ message ∈ messages, message.length < 2 ^ 64))

@[simp] theorem stream_nil : stream [] = [] := rfl

@[simp] theorem stream_cons (message : Bytes) (rest : List Bytes) :
    stream (message :: rest) = encode message ++ stream rest := rfl

theorem length_littleEndian (size n : Nat) : (littleEndian size n).length = size := by
  induction size generalizing n with
  | zero => rfl
  | succ size ih => rw [littleEndian, List.length_cons, ih]

theorem littleEndianValue_littleEndian (size n : Nat) :
    littleEndianValue (littleEndian size n) = n % 256 ^ size := by
  induction size generalizing n with
  | zero => rw [littleEndian, littleEndianValue, Nat.pow_zero, Nat.mod_one]
  | succ size ih =>
    have first : n.toUInt8.toNat = n % 256 := UInt8.toNat_ofNat'
    rw [littleEndian, littleEndianValue, ih, first, Nat.pow_succ, Nat.mul_comm _ 256, Nat.mod_mul]

theorem length_encode (message : Bytes) :
    (encode message).length = headerSize + message.length := by
  rw [encode, List.length_append, length_littleEndian]

theorem walk_of_cut {bytes : Bytes} (cut : Cut bytes) :
    walk bytes = [] ∧ remainder bytes = bytes := by
  rw [walk, remainder]
  rcases cut with header | body
  · rw [if_neg (Nat.not_le.mpr header), if_neg (Nat.not_le.mpr header)]
    exact ⟨rfl, rfl⟩
  · simp only [if_neg (Nat.not_le.mpr body)]
    constructor <;> split <;> rfl

section Header

variable {message : Bytes} (short : message.length < 2 ^ 64)
include short

theorem littleEndianValue_header :
    littleEndianValue (littleEndian headerSize message.length) = message.length := by
  rw [littleEndianValue_littleEndian]
  exact Nat.mod_eq_of_lt short

theorem walk_encode_append (rest : Bytes) :
    walk (encode message ++ rest) = message :: walk rest ∧
      remainder (encode message ++ rest) = remainder rest := by
  have header : (littleEndian headerSize message.length).length = headerSize :=
    length_littleEndian _ _
  have front : (encode message ++ rest).take headerSize =
      littleEndian headerSize message.length := by
    rw [encode, List.append_assoc, List.take_left' header]
  have back : (encode message ++ rest).drop headerSize = message ++ rest := by
    rw [encode, List.append_assoc, List.drop_left' header]
  have size : headerSize ≤ (encode message ++ rest).length := by
    rw [List.length_append, length_encode]
    omega
  have whole : message.length ≤ (message ++ rest).length := by
    rw [List.length_append]
    omega
  constructor
  · rw [walk]
    simp only [if_pos size, front, back, littleEndianValue_header short, if_pos whole,
      List.take_left, List.drop_left]
  · rw [remainder]
    simp only [if_pos size, front, back, littleEndianValue_header short, if_pos whole,
      List.drop_left]

/-- What is in front of a cut through a frame is no whole frame. -/
theorem cut_of_isPrefix {bytes : Bytes} (front : bytes <+: encode message)
    (less : bytes.length < headerSize + message.length) : Cut bytes := by
  rcases Nat.lt_or_ge bytes.length headerSize with header | size
  · exact .inl header
  · have taken : bytes.take headerSize = littleEndian headerSize message.length := by
      obtain ⟨rest, same⟩ := front
      have heads := congrArg (List.take headerSize) same
      rwa [List.take_append_of_le_length size, encode,
        List.take_left' (length_littleEndian _ _)] at heads
    refine .inr ?_
    rw [taken, littleEndianValue_header short, List.length_drop]
    omega

end Header

theorem walk_stream {messages : List Bytes} (fit : Fit messages) :
    walk (stream messages) = messages ∧ remainder (stream messages) = [] := by
  induction messages with
  | nil => exact walk_of_cut (.inl (by decide))
  | cons message rest ih =>
    obtain ⟨walked, stopped⟩ := walk_encode_append (fit message List.mem_cons_self) (stream rest)
    obtain ⟨messages, last⟩ := ih fun other member => fit other (List.mem_cons_of_mem _ member)
    rw [stream_cons, walked, stopped, messages, last]
    exact ⟨rfl, rfl⟩

/-- What a walk over the front of a run of frames comes to. -/
structure Recovers (messages : List Bytes) (bytes : Bytes) : Prop where
  isPrefix : walk bytes <+: messages
  whole : bytes = stream (walk bytes) ++ remainder bytes
  /-- The messages that are given back are those whose frames lie wholly in front. -/
  inside : ∀ i < messages.length,
    i < (walk bytes).length ↔ (stream (messages.take (i + 1))).length ≤ bytes.length
  cut : Cut (remainder bytes)

theorem recovers_of_isPrefix {messages : List Bytes} (fit : Fit messages) {bytes : Bytes}
    (front : bytes <+: stream messages) : Recovers messages bytes := by
  induction messages generalizing bytes with
  | nil =>
    obtain rfl := List.prefix_nil.mp front
    have cut : Cut [] := .inl (by decide)
    obtain ⟨walked, stopped⟩ := walk_of_cut cut
    refine ⟨by rw [walked], by rw [walked, stopped]; rfl, by simp, by rwa [stopped]⟩
  | cons message rest ih =>
    have short := fit message List.mem_cons_self
    have frame : encode message <+: stream (message :: rest) := List.prefix_append _ _
    rcases Nat.lt_or_ge bytes.length (headerSize + message.length) with less | size
    · -- The cut goes through the first frame.
      have inFrame : bytes <+: encode message := by
        apply List.prefix_of_prefix_length_le front frame
        rw [length_encode]
        omega
      have cut := cut_of_isPrefix short inFrame less
      obtain ⟨walked, stopped⟩ := walk_of_cut cut
      refine ⟨?_, ?_, ?_, ?_⟩
      · rw [walked]
        exact List.nil_prefix
      · rw [walked, stopped]
        rfl
      · intro i _
        rw [walked, List.take_succ_cons, stream_cons, List.length_append, length_encode]
        simp only [List.length_nil]
        omega
      · rwa [stopped]
    · obtain ⟨behind, rfl⟩ : encode message <+: bytes := by
        apply List.prefix_of_prefix_length_le frame front
        rwa [length_encode]
      rw [stream_cons, List.prefix_append_right_inj] at front
      have later := ih (fun other member => fit other (List.mem_cons_of_mem _ member)) front
      obtain ⟨walked, stopped⟩ := walk_encode_append short behind
      refine ⟨?_, ?_, ?_, ?_⟩
      · rw [walked]
        exact (List.prefix_cons_inj _).mpr later.isPrefix
      · rw [walked, stopped, stream_cons, List.append_assoc, ← later.whole]
      · intro i inside
        rw [walked, List.take_succ_cons, stream_cons, List.length_append, List.length_append]
        cases i with
        | zero => simp
        | succ i =>
          have same := later.inside i (Nat.lt_of_succ_lt_succ inside)
          rw [List.length_cons, Nat.add_lt_add_iff_right, same, Nat.add_le_add_iff_left]
      · rw [stopped]
        exact later.cut

/-- A walk over the frames of messages gives back the messages and stops at the last byte. Over the
front of the frames, wherever it ends, it gives back the messages whose frames are whole there, and
stops at a header or a message that is cut off. So no other messages have the same frames. -/
theorem self_delimiting {messages : List Bytes} (fit : Fit messages) :
    walk (stream messages) = messages ∧ remainder (stream messages) = [] ∧
      (∀ bytes, bytes <+: stream messages → Recovers messages bytes) ∧
      ∀ others, Fit others → stream others = stream messages → others = messages := by
  obtain ⟨walked, stopped⟩ := walk_stream fit
  refine ⟨walked, stopped, fun bytes front => recovers_of_isPrefix fit front, ?_⟩
  intro others fit' same
  rw [← walked, ← same, (walk_stream fit').1]

/-- An empty message, and one that looks like the frame of another. -/
def nested : List Bytes := [[], [1, 0, 0, 0, 0, 0, 0, 0, 9], [7]]

theorem self_delimiting_nested :
    Fit nested ∧ walk (stream nested) = nested ∧
      (stream nested).take 33 <+: stream nested ∧
      walk ((stream nested).take 33) = [[], [1, 0, 0, 0, 0, 0, 0, 0, 9]] ∧
      ∀ others, Fit others → stream others = stream nested → others = nested := by
  have fit : Fit nested := by decide
  have front : (stream nested).take 33 <+: stream nested := List.take_prefix _ _
  obtain ⟨walked, -, recovers, unique⟩ := self_delimiting fit
  have recovered := recovers _ front
  have second := (recovered.inside 1 (by decide)).mpr (by decide)
  have third := mt (recovered.inside 2 (by decide)).mp (by decide)
  have two : (walk ((stream nested).take 33)).length = 2 := by omega
  refine ⟨fit, walked, front, ?_, unique⟩
  rw [List.prefix_iff_eq_take.mp recovered.isPrefix, two]
  rfl

end LoadSeries.Frame

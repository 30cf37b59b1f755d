import Mathlib.Data.List.Basic

/-! UTF-8 as a sender writes it and as a lenient reader takes it.

The reader puts the replacement character for every longest beginning of a sequence that
no character continues, and for every byte that begins none.
-/

set_option autoImplicit false

namespace SprHomeAssistant.Library.Utf8

def newline : UInt8 := 10

def encode (text : List Char) : List UInt8 := text.flatMap String.utf8EncodeChar

/-- What may follow a leading byte in a well-formed sequence of more than one byte. -/
def continuations (lead : UInt8) : List (UInt8 × UInt8) :=
  let any : UInt8 × UInt8 := (0x80, 0xBF)
  if 0xC2 ≤ lead && lead ≤ 0xDF then [any]
  else if lead = 0xE0 then [(0xA0, 0xBF), any]
  else if lead = 0xED then [(0x80, 0x9F), any]
  else if 0xE1 ≤ lead && lead ≤ 0xEF then [any, any]
  else if lead = 0xF0 then [(0x90, 0xBF), any, any]
  else if 0xF1 ≤ lead && lead ≤ 0xF3 then [any, any, any]
  else if lead = 0xF4 then [(0x80, 0x8F), any, any]
  else []

def continued : List (UInt8 × UInt8) → List UInt8 → Nat
  | (low, high) :: ranges, b :: rest =>
      if low ≤ b && b ≤ high then continued ranges rest + 1 else 0
  | _, _ => 0

def replacement : Char := '\uFFFD'

def decodeFrom : Nat → List UInt8 → List Char
  | _, [] => []
  -- the rest of a sequence whose first byte was already decoded
  | skip + 1, _ :: rest => decodeFrom skip rest
  | 0, lead :: rest =>
      match (lead :: rest).toByteArray.utf8DecodeChar? 0 with
      | some c => c :: decodeFrom (c.utf8Size - 1) rest
      | none => replacement :: decodeFrom (continued (continuations lead) rest) rest

/-- `bytes.decode("utf-8", "replace")`. -/
def decode (bytes : List UInt8) : List Char := decodeFrom 0 bytes

example : decode [0xE2, 0x82, 0x41, 0xC0, 0xC3, 0xA9] =
    [replacement, 'A', replacement, Char.ofNat 0xE9] := by decide

theorem decodeFrom_skip (skipped rest : List UInt8) :
    decodeFrom skipped.length (skipped ++ rest) = decodeFrom 0 rest := by
  induction skipped with
  | nil => rfl
  | cons b skipped ih => exact ih

/-- The first character of a text is decoded from its own bytes, whatever comes behind it. -/
theorem decodeChar_front (c : Char) (rest : List UInt8) :
    ∃ lead tail, String.utf8EncodeChar c = lead :: tail ∧
      (lead :: (tail ++ rest)).toByteArray.utf8DecodeChar? 0 = some c ∧ c.utf8Size - 1 = tail.length := by
  obtain ⟨lead, tail, encoded⟩ := List.exists_cons_of_ne_nil (String.utf8EncodeChar_ne_nil (c := c))
  refine ⟨lead, tail, encoded, ?_, ?_⟩
  · rw [← List.cons_append, ← encoded, List.toByteArray_append]
    exact ByteArray.utf8DecodeChar?_utf8EncodeChar_append
  · rw [← String.length_utf8EncodeChar, encoded, List.length_cons, Nat.add_sub_cancel]

theorem decode_char (c : Char) (rest : List UInt8) :
    decode (String.utf8EncodeChar c ++ rest) = c :: decode rest := by
  obtain ⟨lead, tail, encoded, front, size⟩ := decodeChar_front c rest
  rw [encoded, List.cons_append]
  simp only [decode, decodeFrom, front, size, decodeFrom_skip]

theorem decode_encode (text : List Char) : decode (encode text) = text := by
  induction text with
  | nil => rfl
  | cons c text ih => rw [encode, List.flatMap_cons, decode_char, ← encode, ih]

theorem encode_append (first rest : List Char) : encode (first ++ rest) = encode first ++ encode rest :=
  List.flatMap_append

/-- The byte of an ASCII character. -/
def asciiByte (c : Char) : UInt8 := UInt8.ofNat c.toNat

theorem encode_ascii {text : List Char} (ascii : ∀ c ∈ text, c.toNat < 0x80) :
    encode text = text.map asciiByte := by
  induction text with
  | nil => rfl
  | cons c text ih =>
      obtain ⟨own, others⟩ := List.forall_mem_cons.mp ascii
      have value : c.val.toNat ≤ 0x7F := Nat.le_of_lt_succ own
      have single : String.utf8EncodeChar c = [asciiByte c] := by
        simp only [String.utf8EncodeChar, if_pos value]
        rfl
      rw [encode, List.flatMap_cons, single, ← encode, ih others, List.singleton_append, List.map_cons]

/-- A byte below 0x80 stands for its own character only. -/
theorem ascii_of_mem {c : Char} {b : UInt8} (member : b ∈ String.utf8EncodeChar c)
    (ascii : b.toNat < 0x80) : b.toNat = c.toNat := by
  have value : c.toNat = c.val.toNat := rfl
  -- every byte of a longer sequence has its highest bit set
  have high : ∀ n, 0x80 ≤ n % 256 → b ≠ UInt8.ofNat n := by
    rintro n set rfl
    rw [UInt8.toNat_ofNat'] at ascii
    omega
  simp only [String.utf8EncodeChar] at member
  split at member
  next low =>
    rw [List.mem_singleton.mp member, UInt8.toNat_ofNat']
    omega
  split at member
  · simp only [List.mem_cons, List.not_mem_nil, or_false] at member
    rcases member with same | same
    all_goals exact absurd same (high _ (by omega))
  split at member
  · simp only [List.mem_cons, List.not_mem_nil, or_false] at member
    rcases member with same | same | same
    all_goals exact absurd same (high _ (by omega))
  · simp only [List.mem_cons, List.not_mem_nil, or_false] at member
    rcases member with same | same | same | same
    all_goals exact absurd same (high _ (by omega))

/-- An ASCII character is in a text exactly when its byte is in the encoding. -/
theorem mem_of_mem_encode {text : List Char} {b : UInt8} (member : b ∈ encode text)
    (ascii : b.toNat < 0x80) : ∃ c ∈ text, c.toNat = b.toNat := by
  obtain ⟨c, listed, byte⟩ := List.mem_flatMap.mp member
  exact ⟨c, listed, (ascii_of_mem byte ascii).symm⟩

end SprHomeAssistant.Library.Utf8

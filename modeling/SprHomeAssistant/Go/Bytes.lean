import SprHomeAssistant.Library.Utf8

/-! Go's strings as bytes, and the bytes that hexadecimal digits stand for.

A string that comes out of a URL may be no UTF-8. The functions of `strings` and `regexp`
see it as its runes.
-/

set_option autoImplicit false

namespace SprHomeAssistant.Go
open Library.Utf8

/-! ## Runes -/

def runesFrom : Nat → List UInt8 → List Char
  | _, [] => []
  | skip + 1, _ :: rest => runesFrom skip rest
  | 0, lead :: rest =>
      match (lead :: rest).toByteArray.utf8DecodeChar? 0 with
      | some c => c :: runesFrom (c.utf8Size - 1) rest
      | none => replacement :: runesFrom 0 rest

/-- The runes of a `range` loop: a byte that begins no character is a rune of its own. -/
def runes (bytes : List UInt8) : List Char := runesFrom 0 bytes

def text (bytes : List UInt8) : String := String.ofList (runes bytes)

def bytesOf (s : String) : List UInt8 := encode s.toList

theorem runesFrom_skip (skipped rest : List UInt8) :
    runesFrom skipped.length (skipped ++ rest) = runes rest := by
  induction skipped with
  | nil => rfl
  | cons b skipped ih => exact ih

theorem runes_char (c : Char) (rest : List UInt8) :
    runes (String.utf8EncodeChar c ++ rest) = c :: runes rest := by
  obtain ⟨lead, tail, encoded, front, size⟩ := decodeChar_front c rest
  rw [encoded, List.cons_append]
  simp only [runes, runesFrom, front, size, runesFrom_skip]

theorem runes_encode (cs : List Char) : runes (encode cs) = cs := by
  induction cs with
  | nil => rfl
  | cons c cs ih => rw [encode, List.flatMap_cons, runes_char, ← encode, ih]

@[simp] theorem text_bytesOf (s : String) : text (bytesOf s) = s := by
  rw [text, bytesOf, runes_encode, String.ofList_toList]

/-! ## Hexadecimal -/

def unhex (b : UInt8) : Option Nat :=
  if 0x30 ≤ b && b ≤ 0x39 then some (b.toNat - 0x30)
  else if 0x61 ≤ b && b ≤ 0x66 then some (b.toNat - 0x61 + 10)
  else if 0x41 ≤ b && b ≤ 0x46 then some (b.toNat - 0x41 + 10)
  else none

/-- The byte of two digits. -/
def hexByte (high low : UInt8) : Option UInt8 :=
  match unhex high, unhex low with
  | some high, some low => some (UInt8.ofNat (16 * high + low))
  | _, _ => none

def lowerHex (n : Nat) : Char :=
  ['0', '1', '2', '3', '4', '5', '6', '7', '8', '9', 'a', 'b', 'c', 'd', 'e', 'f'].getD n '0'

def hexPair (b : UInt8) : List Char := [lowerHex (b.toNat / 16), lowerHex (b.toNat % 16)]

/-- Digits that are read and written alike make a byte that is written as they were. -/
theorem hexByte_pair {high low : UInt8} {h l : Nat} (first : unhex high = some h) (second : unhex low = some l)
    (small : h < 16) (little : l < 16) :
    ∃ b, hexByte high low = some b ∧ hexPair b = [lowerHex h, lowerHex l] := by
  have value : (UInt8.ofNat (16 * h + l)).toNat = 16 * h + l := by
    rw [UInt8.toNat_ofNat', Nat.mod_eq_of_lt (by omega)]
  refine ⟨UInt8.ofNat (16 * h + l), by rw [hexByte, first, second], ?_⟩
  rw [hexPair, value, Nat.mul_add_div (by decide), Nat.div_eq_of_lt little, Nat.mul_add_mod,
    Nat.mod_eq_of_lt little, Nat.add_zero]

end SprHomeAssistant.Go

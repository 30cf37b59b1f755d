import SprHomeAssistant.Go.Bytes

/-! `net.ParseMAC` and the hardware addresses it gives. -/

set_option autoImplicit false

namespace SprHomeAssistant.Go.Net
open Library.Utf8

/-- Pairs of digits with the same byte between any two. -/
def readPairs (separator : UInt8) : List UInt8 → Option (List UInt8)
  | [high, low] =>
      match hexByte high low with
      | some b => some [b]
      | none => none
  | high :: low :: between :: rest =>
      match hexByte high low, readPairs separator rest with
      | some b, some hw => if between = separator then some (b :: hw) else none
      | _, _ => none
  | _ => none

/-- Groups of four digits with dots between them. -/
def readQuads : List UInt8 → Option (List UInt8)
  | [a, b, c, d] =>
      match hexByte a b, hexByte c d with
      | some first, some second => some [first, second]
      | _, _ => none
  | a :: b :: c :: d :: between :: rest =>
      match hexByte a b, hexByte c d, readQuads rest with
      | some first, some second, some hw =>
          if between = asciiByte '.' then some (first :: second :: hw) else none
      | _, _, _ => none
  | _ => none

/-- `net.ParseMAC`: the form is told by the byte behind its first group. -/
def parseMAC (s : List UInt8) : Option (List UInt8) :=
  let hw :=
    if s[2]? = some (asciiByte ':') then readPairs (asciiByte ':') s
    else if s[2]? = some (asciiByte '-') then readPairs (asciiByte '-') s
    else if s[4]? = some (asciiByte '.') then readQuads s
    else none
  hw.filter fun hw => [6, 8, 20].contains hw.length

/-- The text of its error. -/
def addrError (s : List UInt8) : String :=
  if s.isEmpty then "invalid MAC address" else "address " ++ text s ++ ": invalid MAC address"

def colonForm : List UInt8 → List Char
  | [] => []
  | [b] => hexPair b
  | b :: rest => hexPair b ++ ':' :: colonForm rest

theorem colonForm_cons (b : UInt8) {hw : List UInt8} (more : hw ≠ []) :
    colonForm (b :: hw) = hexPair b ++ ':' :: colonForm hw := by
  cases hw with
  | nil => exact absurd rfl more
  | cons next rest => rfl

/-- `HardwareAddr.String`. -/
def hardwareString (hw : List UInt8) : String := String.ofList (colonForm hw)

example : parseMAC (bytesOf "AA-bb-CC-dd-EE-01") = some [0xAA, 0xBB, 0xCC, 0xDD, 0xEE, 0x01] ∧
    parseMAC (bytesOf "aabb.ccdd.ee01") = some [0xAA, 0xBB, 0xCC, 0xDD, 0xEE, 0x01] ∧
    parseMAC (bytesOf "aa:bb-cc:dd:ee:01") = none := by decide

theorem parseMAC_colons {s hw : List UInt8} (form : s[2]? = some (asciiByte ':'))
    (read : readPairs (asciiByte ':') s = some hw) (six : hw.length = 6) : parseMAC s = some hw := by
  rw [parseMAC, if_pos form, read]
  simp [Option.filter, six]

end SprHomeAssistant.Go.Net

import Mathlib
import SprHomeAssistant.Go.Values
import SprHomeAssistant.Json

/-! `encoding/json` into Go values.

A value that does not fit its place is reported at the end and not before: decoding goes
on with the rest of the document and keeps whatever fitted. A decoder therefore gives the
value it leaves behind together with whether everything fitted.
-/

set_option autoImplicit false

namespace SprHomeAssistant.Go

abbrev Decoder (Value : Type) := Value → Json → Value × Bool

variable {Value : Type}

-- `null` has no effect on a string, a number, a bool or a struct.
def decodeString : Decoder String
  | old, .null => (old, true)
  | _, .str s => (s, true)
  | old, _ => (old, false)

def decodeBool : Decoder Bool
  | old, .null => (old, true)
  | _, .bool b => (b, true)
  | old, _ => (old, false)

def decodeInt64 : Decoder Int64
  | old, .null => (old, true)
  | old, .int n => if -2 ^ 63 ≤ n ∧ n < 2 ^ 63 then (.ofInt n, true) else (old, false)
  | old, _ => (old, false)

/-- An element is decoded over the one that the slice has in its place. -/
def decodeItems (element : Decoder Value) (zero : Value) : List Value → List Json → List Value × Bool
  | _, [] => ([], true)
  | old, item :: rest =>
      let first := element (old.headD zero) item
      let later := decodeItems element zero old.tail rest
      (first.1 :: later.1, first.2 && later.2)

/-- What lies between the length of a slice and its capacity is not kept for a later list. -/
def decodeSlice (element : Decoder Value) (zero : Value) : Decoder (Slice Value)
  | _, .null => (none, true)
  | old, .arr items =>
      let decoded := decodeItems element zero old.items items
      (some decoded.1, decoded.2)
  | old, _ => (old, false)

/-- `foldName`, for comparison with a name of ASCII letters: only U+017F and U+212A fold
together with one. -/
def foldLetter (c : Char) : Char :=
  if c = Char.ofNat 0x17F then 'S' else if c = Char.ofNat 0x212A then 'K' else c.toUpper

def namesField (key name : String) : Bool := key.toList.map foldLetter = name.toList.map foldLetter

/-- One member of an object; a key that names no field is skipped. -/
def decodeField (fields : List (String × Decoder Value)) (acc : Value × Bool) (member : String × Json) :
    Value × Bool :=
  match fields.find? fun field => namesField member.1 field.1 with
  | none => acc
  | some field =>
      let decoded := field.2 acc.1 member.2
      (decoded.1, acc.2 && decoded.2)

def decodeStruct (fields : List (String × Decoder Value)) : Decoder Value
  | old, .null => (old, true)
  | old, .obj members => members.foldl (decodeField fields) (old, true)
  | old, _ => (old, false)

/-! ## Maps -/

/-- An element is decoded afresh, and stored under its key whether it fitted or not. -/
def decodeEntry (element : Decoder Value) (zero : Value) (acc : Map Value × Bool) (member : String × Json) :
    Map Value × Bool :=
  let decoded := element zero member.2
  (acc.1.insert member.1 decoded.1, acc.2 && decoded.2)

def decodeMap (element : Decoder Value) (zero : Value) : Decoder (Map Value)
  | _, .null => (∅, true)
  | old, .obj members => members.foldl (decodeEntry element zero) (old, true)
  | old, _ => (old, false)

def Fits (element : Decoder Value) (zero : Value) (document : Json) : Prop := (element zero document).2 = true

instance (element : Decoder Value) (zero : Value) (document : Json) :
    Decidable (Fits element zero document) := inferInstanceAs (Decidable (_ = true))

section
variable (element : Decoder Value) (zero : Value)

/-- Everything fitted when each member of the object did. -/
theorem decodeEntries_fit_iff (members : List (String × Json)) (acc : Map Value × Bool) :
    (members.foldl (decodeEntry element zero) acc).2 = true ↔
      acc.2 = true ∧ ∀ member ∈ members, Fits element zero member.2 := by
  induction members generalizing acc with
  | nil => simp
  | cons member rest ih =>
      rw [List.foldl_cons, ih, List.forall_mem_cons, ← and_assoc]
      simp [decodeEntry, Fits]

/-- A key that the object has not keeps what the map had. -/
theorem lookup_decodeEntries_absent {key : String} (members : List (String × Json))
    (absent : key ∉ members.map (·.1)) (acc : Map Value × Bool) :
    (members.foldl (decodeEntry element zero) acc).1.lookup key = acc.1.lookup key := by
  induction members generalizing acc with
  | nil => rfl
  | cons member rest ih =>
      rw [List.map_cons, List.mem_cons, not_or] at absent
      rw [List.foldl_cons, ih absent.2]
      exact AList.lookup_insert_ne absent.1

/-- A key that the object has gets what the object says, whatever the map had. -/
theorem lookup_decodeEntries_present {key : String} (members : List (String × Json))
    (present : key ∈ members.map (·.1)) (acc other : Map Value × Bool) :
    ∃ value, (members.foldl (decodeEntry element zero) acc).1.lookup key = some value ∧
      (members.foldl (decodeEntry element zero) other).1.lookup key = some value := by
  induction members generalizing acc other with
  | nil => simp at present
  | cons member rest ih =>
      rw [List.foldl_cons, List.foldl_cons]
      by_cases later : key ∈ rest.map (·.1)
      · exact ih later _ _
      · obtain rfl : key = member.1 := by simpa [later] using present
        rw [lookup_decodeEntries_absent element zero rest later,
          lookup_decodeEntries_absent element zero rest later]
        exact ⟨_, AList.lookup_insert .., AList.lookup_insert ..⟩

end

end SprHomeAssistant.Go

import Mathlib.Data.Rat.Init

/-! JSON documents as the plugin writes them and Home Assistant reads them.

Python's decoder keeps integers apart from floats and accepts the words for infinities
and for no number; a finite float is the rational number it stands for. The keys of a
decoded object are distinct, so the first field of a name is the only one.
-/

set_option autoImplicit false

namespace SprHomeAssistant

inductive Json where
  | null
  | bool (value : Bool)
  | int (value : Int)
  | float (value : Rat)
  | nonFinite
  | str (value : String)
  | arr (items : List Json)
  | obj (fields : List (String × Json))

namespace Json

mutual
private def decEq (a b : Json) : Decidable (a = b) :=
  match a, b with
  | .null, .null => isTrue rfl
  | .nonFinite, .nonFinite => isTrue rfl
  | .bool x, .bool y => decidable_of_iff (x = y) (by simp)
  | .int x, .int y => decidable_of_iff (x = y) (by simp)
  | .float x, .float y => decidable_of_iff (x = y) (by simp)
  | .str x, .str y => decidable_of_iff (x = y) (by simp)
  | .arr xs, .arr ys =>
      haveI := decEqItems xs ys
      decidable_of_iff (xs = ys) (by simp)
  | .obj xs, .obj ys =>
      haveI := decEqFields xs ys
      decidable_of_iff (xs = ys) (by simp)
  | .null, .nonFinite | .null, .bool _ | .null, .int _ | .null, .float _ | .null, .str _
  | .null, .arr _ | .null, .obj _ | .nonFinite, .null | .nonFinite, .bool _
  | .nonFinite, .int _ | .nonFinite, .float _ | .nonFinite, .str _ | .nonFinite, .arr _
  | .nonFinite, .obj _ | .bool _, .null | .bool _, .nonFinite | .bool _, .int _
  | .bool _, .float _ | .bool _, .str _ | .bool _, .arr _ | .bool _, .obj _
  | .int _, .null | .int _, .nonFinite | .int _, .bool _ | .int _, .float _ | .int _, .str _
  | .int _, .arr _ | .int _, .obj _ | .float _, .null | .float _, .nonFinite
  | .float _, .bool _ | .float _, .int _ | .float _, .str _ | .float _, .arr _
  | .float _, .obj _ | .str _, .null | .str _, .nonFinite | .str _, .bool _ | .str _, .int _
  | .str _, .float _ | .str _, .arr _ | .str _, .obj _ | .arr _, .null | .arr _, .nonFinite
  | .arr _, .bool _ | .arr _, .int _ | .arr _, .float _ | .arr _, .str _ | .arr _, .obj _
  | .obj _, .null | .obj _, .nonFinite | .obj _, .bool _ | .obj _, .int _ | .obj _, .float _
  | .obj _, .str _ | .obj _, .arr _ => isFalse (by intro same; cases same)
private def decEqItems (xs ys : List Json) : Decidable (xs = ys) :=
  match xs, ys with
  | [], [] => isTrue rfl
  | x :: xs, y :: ys =>
      haveI := decEq x y
      haveI := decEqItems xs ys
      decidable_of_iff (x = y ∧ xs = ys) (by simp)
  | [], _ :: _ | _ :: _, [] => isFalse (by intro same; cases same)
private def decEqFields (xs ys : List (String × Json)) : Decidable (xs = ys) :=
  match xs, ys with
  | [], [] => isTrue rfl
  | (k, x) :: xs, (l, y) :: ys =>
      haveI := decEq x y
      haveI := decEqFields xs ys
      decidable_of_iff (k = l ∧ x = y ∧ xs = ys) (by simp [and_assoc])
  | [], _ :: _ | _ :: _, [] => isFalse (by intro same; cases same)
end

instance : DecidableEq Json := decEq

/-- Whether a value counts as true in Python. -/
def truthy : Json → Bool
  | .null => false
  | .bool value => value
  | .int value => value != 0
  | .float value => value != 0
  | .nonFinite => true
  | .str value => value != ""
  | .arr items => !items.isEmpty
  | .obj fields => !fields.isEmpty

/-- Python's `first or second`. -/
def orElse (first second : Json) : Json := if first.truthy then first else second

end Json

end SprHomeAssistant

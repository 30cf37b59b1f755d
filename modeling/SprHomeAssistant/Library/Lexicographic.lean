import Mathlib

/-! Sequences compared in order through a monotone map.

The map may identify items. The order of two sequences survives it unless it identifies
the items at which they differ first; the items behind them decide in that case.
-/

set_option autoImplicit false

namespace SprHomeAssistant.Library.Lexicographic

variable {Item Image : Type} [LinearOrder Item] [LinearOrder Image] {f : Item → Image}

/-- At the first difference the map keeps the items apart, or the items behind happen to be
ordered as these are. -/
def KeepsOrder (f : Item → Image) : List Item → List Item → Prop
  | x :: xs, y :: ys =>
      (x = y ∧ KeepsOrder f xs ys) ∨ (x ≠ y ∧ (f x ≠ f y ∨ (xs.map f < ys.map f ↔ x < y)))
  | _, _ => True

theorem map_lt_of_apart (mono : Monotone f) {x y : Item} (apart : f x ≠ f y) : f x < f y ↔ x < y := by
  constructor
  · exact fun less => mono.reflect_lt less
  · intro less
    exact lt_of_le_of_ne (mono less.le) apart

/-- Comparing through the map is comparing the sequences exactly when their order is kept. -/
theorem map_lt_iff (mono : Monotone f) (xs : List Item) :
    ∀ ys : List Item, (xs.map f < ys.map f ↔ xs < ys) ↔ KeepsOrder f xs ys := by
  induction xs with
  | nil =>
      intro ys
      cases ys with
      | nil => simp [KeepsOrder]
      | cons y ys => simp [KeepsOrder]
  | cons x xs ih =>
      intro ys
      cases ys with
      | nil => simp [KeepsOrder]
      | cons y ys =>
          rw [KeepsOrder, List.map_cons, List.map_cons, List.cons_lt_cons_iff, List.cons_lt_cons_iff]
          by_cases same : x = y
          · subst same
            simpa using ih ys
          · by_cases apart : f x = f y
            · simp [same, apart]
            · simp [same, apart, map_lt_of_apart mono apart]

end SprHomeAssistant.Library.Lexicographic

import Mathlib

/-! Rounding down to a multiple of a width.

Values a little above an exact one round to its multiple or to the next. Which of the
two is decided by how far the exact value is past its own multiple.
-/

set_option autoImplicit false

namespace SprHomeAssistant.Library.Rounding

variable {K : Type} [Field K] [LinearOrder K] [FloorRing K]

/-- The greatest multiple of the width that is not above `x`. -/
def roundDown (width x : K) : K := width * ⌊x / width⌋

/-- How far `x` is past that multiple. -/
def past (width x : K) : K := x - roundDown width x

theorem roundDown_add_past (width x : K) : roundDown width x + past width x = x := by
  simp [past]

variable [IsStrictOrderedRing K] {width : K}

theorem roundDown_of_between (positive : 0 < width) {x : K} {n : ℤ} (above : width * n ≤ x)
    (below : x < width * (n + 1)) : roundDown width x = width * n := by
  have floor : ⌊x / width⌋ = n := by
    rw [Int.floor_eq_iff, le_div_iff₀ positive, div_lt_iff₀ positive]
    exact ⟨by rwa [mul_comm], by rwa [mul_comm]⟩
  rw [roundDown, floor]

theorem past_nonneg (positive : 0 < width) (x : K) : 0 ≤ past width x := by
  have below := (le_div_iff₀ positive).mp (Int.floor_le (x / width))
  rw [past, roundDown]
  linarith

theorem past_lt (positive : 0 < width) (x : K) : past width x < width := by
  have above := (div_lt_iff₀ positive).mp (Int.lt_floor_add_one (x / width))
  rw [past, roundDown]
  linarith

/-- A value less than a width above `x` rounds as `x` does, until it reaches the next multiple. -/
theorem roundDown_add (positive : 0 < width) (x : K) {offset : K} (nonneg : 0 ≤ offset)
    (small : offset < width) :
    roundDown width (x + offset) =
      if past width x + offset < width then roundDown width x else roundDown width x + width := by
  have split := roundDown_add_past width x
  have low := past_nonneg positive x
  have high := past_lt positive x
  by_cases before : past width x + offset < width
  · rw [if_pos before]
    apply roundDown_of_between positive
    · change roundDown width x ≤ _
      linarith
    · rw [mul_add, mul_one]
      change _ < roundDown width x + width
      linarith
  · have next : roundDown width x + width = width * ((⌊x / width⌋ + 1 : ℤ) : K) := by
      rw [roundDown]
      push_cast
      ring
    rw [if_neg before, next]
    apply roundDown_of_between positive
    · rw [← next]
      linarith
    · rw [mul_add, mul_one, ← next]
      linarith

/-- Two values less than a width above `x` round alike when both or neither reach the next
multiple. -/
theorem roundDown_add_eq_iff (positive : 0 < width) (x : K) {a b : K} (nonneg : 0 ≤ a ∧ 0 ≤ b)
    (small : a < width ∧ b < width) :
    roundDown width (x + a) = roundDown width (x + b) ↔
      (past width x + a < width ↔ past width x + b < width) := by
  have apart : roundDown width x ≠ roundDown width x + width := by
    intro same
    linarith
  rw [roundDown_add positive x nonneg.1 small.1, roundDown_add positive x nonneg.2 small.2]
  by_cases first : past width x + a < width <;> by_cases second : past width x + b < width
  · simp [first, second]
  · simp [first, second, apart]
  · simp [first, second, apart.symm]
  · simp [first, second]

/-- All values less than a spread above `x` round alike exactly when the spread fits in front
of the next multiple. -/
theorem roundDown_spread_iff (positive : 0 < width) (x : K) {spread : K} (some : 0 < spread)
    (small : spread ≤ width) :
    (∀ a b, 0 ≤ a ∧ a < spread → 0 ≤ b ∧ b < spread →
        roundDown width (x + a) = roundDown width (x + b)) ↔
      past width x + spread ≤ width := by
  have low := past_nonneg positive x
  have high := past_lt positive x
  constructor
  · intro alike
    by_contra outside
    -- `x` itself, and the first value above it that is a multiple
    have same := alike 0 (width - past width x) ⟨le_rfl, some⟩ ⟨by linarith, by linarith⟩
    rw [roundDown_add_eq_iff positive x ⟨le_rfl, by linarith⟩ ⟨positive, by linarith⟩] at same
    have reached := same.mp (by linarith)
    linarith
  · intro fits a b a_within b_within
    rw [roundDown_add_eq_iff positive x ⟨a_within.1, b_within.1⟩ ⟨by linarith, by linarith⟩]
    exact ⟨fun _ => by linarith, fun _ => by linarith⟩

end SprHomeAssistant.Library.Rounding

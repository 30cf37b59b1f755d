import Mathlib

/-! Moments that keep a distance, counted in a window. -/

set_option autoImplicit false

namespace SprHomeAssistant.Library.Spacing

variable {Moment : Type} [CommRing Moment] [LinearOrder Moment] [IsStrictOrderedRing Moment]

theorem spaced_within {gap : Moment} {moments : List Moment} (spaced : moments.Pairwise fun a b => a + gap ≤ b)
    (some : moments ≠ []) {opening span : Moment} (within : ∀ t ∈ moments, opening ≤ t ∧ t < opening + span) :
    moments.length * gap < span + gap := by
  -- behind the first moment the window begins a gap later
  induction moments generalizing opening span with
  | nil => exact absurd rfl some
  | cons first rest ih =>
      obtain ⟨apart, spaced⟩ := List.pairwise_cons.mp spaced
      obtain ⟨⟨after, before⟩, within⟩ := List.forall_mem_cons.mp within
      cases rest with
      | nil =>
          have room : 0 < span := by linarith
          simpa using room
      | cons second rest =>
          have behind : ∀ t ∈ second :: rest,
              first + gap ≤ t ∧ t < first + gap + (opening + span - (first + gap)) :=
            fun t member => ⟨apart t member, by linarith [(within t member).2]⟩
          have later := ih spaced (by simp) behind
          rw [List.length_cons]
          push_cast
          linarith

end SprHomeAssistant.Library.Spacing

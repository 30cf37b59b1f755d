import Mathlib.Data.List.Chain

/-! A value sampled now and then, and what is announced of its changes.

A sample may know nothing of the value. A change is announced by the new value, and only
between two samples that both know it.
-/

set_option autoImplicit false

namespace SprHomeAssistant.Library.Changes

variable {Value : Type} [DecidableEq Value]

def change : Option Value → Option Value → Option Value
  | some before, some now => if before = now then none else some now
  | _, _ => none

@[simp] theorem change_none_left (now : Option Value) : change none now = none := rfl

@[simp] theorem change_none_right (before : Option Value) : change before none = none := by
  cases before <;> rfl

/-- The announcements along samples that all know the value. -/
def changes (start : Value) : List Value → List Value
  | [] => []
  | now :: rest => (change (some start) (some now)).toList ++ changes now rest

/-- The value after the announcements. -/
def replay (start : Value) (announced : List Value) : Value := announced.getLastD start

theorem changes_cons_same (value : Value) (rest : List Value) :
    changes value (value :: rest) = changes value rest := by
  simp [changes, change]

theorem changes_cons_ne {before now : Value} (differs : before ≠ now) (rest : List Value) :
    changes before (now :: rest) = now :: changes now rest := by
  simp [changes, change, differs]

theorem replay_changes (start : Value) (samples : List Value) :
    replay start (changes start samples) = samples.getLastD start := by
  induction samples generalizing start with
  | nil => rfl
  | cons now rest ih =>
      by_cases same : start = now
      · subst same
        rw [changes_cons_same, ih, List.getLastD_cons]
      · rw [changes_cons_ne same, replay, List.getLastD_cons, List.getLastD_cons]
        exact ih now

/-- No value is announced twice in a row, nor the start value first. -/
theorem changes_alternate (start : Value) (samples : List Value) :
    (start :: changes start samples).IsChain (· ≠ ·) := by
  induction samples generalizing start with
  | nil => exact List.isChain_singleton start
  | cons now rest ih =>
      by_cases same : start = now
      · subst same
        rw [changes_cons_same]
        exact ih start
      · rw [changes_cons_ne same]
        exact List.isChain_cons_cons.mpr ⟨same, ih now⟩

end SprHomeAssistant.Library.Changes

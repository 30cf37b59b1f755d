import Mathlib

/-! Registers that should hold the greatest sample written to them.

Writers reach a register in two ways: one assigns its sample whatever the
register holds, the other raises the register to its sample when that is
greater. Raising is safe in every order; an assignment is safe only when no
greater sample was written before it. Samples are taken from any linear order.
-/

set_option autoImplicit false

namespace SprHomeAssistant.Library.Latest

variable {Key Value : Type} [LinearOrder Value]

/-- No register loses its value or falls below it. -/
def Advances (before after : Key → Option Value) : Prop :=
  ∀ key held, before key = some held → ∃ later, after key = some later ∧ held ≤ later

theorem Advances.refl (registers : Key → Option Value) : Advances registers registers :=
  fun _ held found => ⟨held, found, le_rfl⟩

theorem Advances.trans {first second third : Key → Option Value}
    (left : Advances first second) (right : Advances second third) : Advances first third := by
  intro key held found
  obtain ⟨middle, found, below⟩ := left key held found
  obtain ⟨later, found, above⟩ := right key middle found
  exact ⟨later, found, below.trans above⟩

/-- Every sample written so far is at most what its register holds. -/
def Covers (written : List (Key × Value)) (registers : Key → Option Value) : Prop :=
  ∀ key sample, (key, sample) ∈ written → ∃ held, registers key = some held ∧ sample ≤ held

/-- What the registers hold was written to them, and nothing written is above it. -/
structure IsLatest (written : List (Key × Value)) (registers : Key → Option Value) : Prop where
  covers : Covers written registers
  recorded : ∀ key held, registers key = some held → (key, held) ∈ written

theorem IsLatest.empty : IsLatest ([] : List (Key × Value)) fun _ => none where
  covers := by simp [Covers]
  recorded := by simp

/-- The assignment is not behind: nothing greater was written to the register before. -/
def InOrder (written : List (Key × Value)) (key : Key) (value : Value) : Prop :=
  ∀ sample, (key, sample) ∈ written → sample ≤ value

/-- Whether a writer that raises changes the register; an empty register reads as `zero`. -/
def Raises (zero : Value) (registers : Key → Option Value) (key : Key) (value : Value) : Prop :=
  (registers key).getD zero < value

theorem Raises.inOrder {zero : Value} {written : List (Key × Value)}
    {registers : Key → Option Value} (latest : IsLatest written registers)
    {key : Key} {value : Value} (raises : Raises zero registers key value) :
    InOrder written key value := by
  intro sample member
  obtain ⟨held, found, below⟩ := latest.covers key sample member
  rw [Raises, found] at raises
  exact below.trans (le_of_lt raises)

variable [DecidableEq Key]

theorem assign_advances {written : List (Key × Value)} {registers : Key → Option Value}
    (latest : IsLatest written registers) {key : Key} {value : Value}
    (ordered : InOrder written key value) :
    Advances registers (Function.update registers key (some value)) := by
  intro other held found
  by_cases same : other = key
  · subst same
    exact ⟨value, by simp, ordered held (latest.recorded _ _ found)⟩
  · exact ⟨held, by simp [same, found], le_rfl⟩

theorem assign_latest {written : List (Key × Value)} {registers : Key → Option Value}
    (latest : IsLatest written registers) {key : Key} {value : Value}
    (ordered : InOrder written key value) :
    IsLatest (written ++ [(key, value)]) (Function.update registers key (some value)) where
  covers := by
    intro other sample member
    rcases List.mem_append.mp member with old | new
    · obtain ⟨held, found, below⟩ := latest.covers other sample old
      by_cases same : other = key
      · subst same
        exact ⟨value, by simp, ordered sample old⟩
      · exact ⟨held, by simp [same, found], below⟩
    · obtain ⟨rfl, rfl⟩ := Prod.mk.inj (List.mem_singleton.mp new)
      exact ⟨sample, by simp, le_rfl⟩
  recorded := by
    intro other held found
    by_cases same : other = key
    · subst same
      simp_all
    · rw [Function.update_of_ne same] at found
      exact List.mem_append_left _ (latest.recorded other held found)

theorem inOrder_of_covers {written : List (Key × Value)} {registers : Key → Option Value}
    {key : Key} {value : Value}
    (covers : Covers (written ++ [(key, value)]) (Function.update registers key (some value))) :
    InOrder written key value := by
  intro sample member
  obtain ⟨held, found, below⟩ := covers key sample (List.mem_append_left _ member)
  rw [Function.update_self, Option.some.injEq] at found
  exact found ▸ below

end SprHomeAssistant.Library.Latest

import Mathlib

/-! Meters whose entries only grow, and totals read from them.

A listing of a meter may come in any order and may repeat a key. Growth says that
every entry of the earlier listing is still in the later one with at least the
amount it had; the later listing may have entries of its own.
-/

set_option autoImplicit false

namespace SprHomeAssistant.Library.Growth

variable {Entry Key : Type}

def Grows (key : Entry → Key) (amount : Entry → Nat) (earlier later : List Entry) : Prop :=
  ∃ kept added, later.Perm (kept ++ added) ∧
    List.Forall₂ (fun old new => key old = key new ∧ amount old ≤ amount new) earlier kept

def total (amount : Entry → Nat) (entries : List Entry) : Nat := (entries.map amount).sum

theorem Grows.total_le {key : Entry → Key} {amount : Entry → Nat} {earlier later : List Entry}
    (grows : Grows key amount earlier later) : total amount earlier ≤ total amount later := by
  obtain ⟨kept, added, order, same⟩ := grows
  have whole : total amount later = total amount kept + total amount added := by
    simp only [total, (order.map amount).sum_eq, List.map_append, List.sum_append]
  have entrywise : List.Forall₂ (· ≤ ·) (earlier.map amount) (kept.map amount) := by
    rw [List.forall₂_map_left_iff, List.forall₂_map_right_iff]
    exact same.imp fun _ _ entry => entry.2
  exact whole ▸ Nat.le_add_right_of_le entrywise.sum_le_sum

/-- A selection from a chain is a chain when the relation is transitive along it. -/
theorem isChain_filter {Meter : Type} {below : Meter → Meter → Prop}
    (trans : ∀ a b c, below a b → below b c → below a c) (keep : Meter → Bool)
    {meters : List Meter} (chain : meters.IsChain below) : (meters.filter keep).IsChain below :=
  haveI : IsTrans Meter below := ⟨trans⟩
  chain.sublist List.filter_sublist

/-- Two relations that agree wherever a third one holds agree along a chain of the third. -/
theorem isChain_iff_of_isChain {Meter : Type} {below first second : Meter → Meter → Prop}
    (agree : ∀ a b, below a b → (first a b ↔ second a b))
    {meters : List Meter} (chain : meters.IsChain below) :
    meters.IsChain first ↔ meters.IsChain second := by
  simp only [List.isChain_iff_forall_rel_of_append_cons_cons] at chain ⊢
  exact ⟨fun holds a b l₁ l₂ split => (agree a b (chain split)).mp (holds split),
    fun holds a b l₁ l₂ split => (agree a b (chain split)).mpr (holds split)⟩

/-- A reading is the meter's total, or zero when the read failed. It falls from one
reading to the next exactly when a failed read follows a successful one above zero. -/
def reading (succeeded : Bool) (measured : Nat) : Nat := if succeeded then measured else 0

theorem reading_le_iff {first second : Bool} {before after : Nat} (grown : before ≤ after) :
    reading first before ≤ reading second after ↔
      (second = false → first = false ∨ before = 0) := by
  cases first <;> cases second <;> simp [reading, grown]

end SprHomeAssistant.Library.Growth

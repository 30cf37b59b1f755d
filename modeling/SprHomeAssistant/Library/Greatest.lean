import Mathlib

/-! The greatest item of a list whose items need not all have a key.

Items are compared by keys in a linear order, and different items may have one key. A
single pass that holds the best item so far, and replaces it only by a greater one, ends
with an item of the list that no other exceeds.
-/

set_option autoImplicit false

namespace SprHomeAssistant.Library.Greatest

variable {Item Key : Type} [LinearOrder Key] {key : Item → Option Key}

/-- Both items have a key, and the first is smaller. -/
def Below (key : Item → Option Key) (a b : Item) : Prop :=
  ∃ small great, key a = some small ∧ key b = some great ∧ small < great

theorem not_below_self (a : Item) : ¬ Below key a a := by
  rintro ⟨small, great, first, second, less⟩
  rw [first, Option.some.injEq] at second
  exact absurd less (second ▸ lt_irrefl _)

theorem not_below_of_missing {a b : Item} (missing : key b = none) : ¬ Below key a b := by
  rintro ⟨_, _, _, present, _⟩
  rw [missing] at present
  cases present

theorem Below.trans_not {a b c : Item} (less : Below key a b) (notBelow : ¬ Below key c b)
    (keyed : (key c).isSome = true) : Below key a c := by
  obtain ⟨small, great, first, second, lt⟩ := less
  obtain ⟨other, third⟩ := Option.isSome_iff_exists.mp keyed
  refine ⟨small, other, first, third, lt_of_lt_of_le lt ?_⟩
  exact le_of_not_gt fun above => notBelow ⟨other, great, third, second, above⟩

/-- No item of the list exceeds the best one; without it no item has a key. -/
inductive IsBest (key : Item → Option Key) (items : List Item) : Option Item → Prop where
  | unkeyed (missing : ∀ item ∈ items, key item = none) : IsBest key items none
  | top {top : Item} (member : top ∈ items) (keyed : (key top).isSome = true)
      (above : ∀ item ∈ items, ¬ Below key top item) : IsBest key items (some top)

theorem isBest_none_iff {items : List Item} :
    IsBest key items none ↔ ∀ item ∈ items, key item = none :=
  ⟨fun | .unkeyed missing => missing, .unkeyed⟩

theorem isBest_some_iff {items : List Item} {top : Item} :
    IsBest key items (some top) ↔
      top ∈ items ∧ (key top).isSome = true ∧ ∀ item ∈ items, ¬ Below key top item :=
  ⟨fun | .top member keyed above => ⟨member, keyed, above⟩,
    fun ⟨member, keyed, above⟩ => .top member keyed above⟩

theorem IsBest.skip {items : List Item} {best : Option Item} (isBest : IsBest key items best)
    {item : Item} (missing : key item = none) : IsBest key (items ++ [item]) best := by
  cases isBest with
  | unkeyed none => exact .unkeyed (List.forall_mem_append.mpr ⟨none, List.forall_mem_singleton.mpr missing⟩)
  | top member keyed above =>
      exact .top (List.mem_append_left _ member) keyed
        (List.forall_mem_append.mpr ⟨above, List.forall_mem_singleton.mpr (not_below_of_missing missing)⟩)

theorem IsBest.keep {items : List Item} {top item : Item} (isBest : IsBest key items (some top))
    (notBelow : ¬ Below key top item) : IsBest key (items ++ [item]) (some top) := by
  obtain ⟨member, keyed, above⟩ := isBest_some_iff.mp isBest
  exact .top (List.mem_append_left _ member) keyed
    (List.forall_mem_append.mpr ⟨above, List.forall_mem_singleton.mpr notBelow⟩)

/-- An item with a key that exceeds the best so far, or comes first, is the next best. -/
theorem IsBest.replace {items : List Item} {best : Option Item} (isBest : IsBest key items best)
    {item : Item} (keyed : (key item).isSome = true) (exceeds : ∀ top ∈ best, Below key top item) :
    IsBest key (items ++ [item]) (some item) := by
  refine .top (by simp) keyed
    (List.forall_mem_append.mpr ⟨fun other old => ?_, List.forall_mem_singleton.mpr (not_below_self item)⟩)
  cases isBest with
  | unkeyed none => exact not_below_of_missing (none other old)
  | top _ _ above =>
      obtain ⟨small, great, first, second, lt⟩ := exceeds _ rfl
      rintro ⟨middle, last, second', third, lt'⟩
      rw [second, Option.some.injEq] at second'
      exact above other old ⟨small, last, first, third, lt.trans (second' ▸ lt')⟩

/-- Some item exceeds another one exactly when the best does. -/
theorem IsBest.exists_below_iff {items : List Item} {best : Option Item} (isBest : IsBest key items best)
    (item : Item) : (∃ other ∈ items, Below key item other) ↔ ∃ top ∈ best, Below key item top := by
  cases isBest with
  | unkeyed none =>
      refine ⟨fun ⟨other, member, less⟩ => ?_, by simp⟩
      exact absurd less (not_below_of_missing (none other member))
  | top member keyed above =>
      refine ⟨fun ⟨other, listed, less⟩ => ⟨_, rfl, less.trans_not (above other listed) keyed⟩, ?_⟩
      rintro ⟨_, ⟨⟩, less⟩
      exact ⟨_, member, less⟩

end SprHomeAssistant.Library.Greatest

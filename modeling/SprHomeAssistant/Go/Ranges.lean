import Mathlib.Data.List.Sort
import SprHomeAssistant.Go.Values

/-! Loops over maps in whatever order Go takes.

A `range` statement goes through the entries of a map in some order of its own. A loop is
independent of it when its turns commute, as far as what is read of the state afterwards
can tell.
-/

set_option autoImplicit false

namespace SprHomeAssistant.Go

section
variable {State View Item : Type}

/-- Turns that commute in every view of the state give one view in every order. -/
theorem view_foldl_perm {view : State → View} {turn : State → Item → State} {seen : View → Item → View}
    (follows : ∀ state item, view (turn state item) = seen (view state) item) {first second : List Item}
    (order : first.Perm second)
    (commute : ∀ x ∈ first, ∀ y ∈ first, x ≠ y → ∀ v, seen (seen v x) y = seen (seen v y) x)
    {start other : State} (same : view start = view other) :
    view (first.foldl turn start) = view (second.foldl turn other) := by
  have looped : ∀ (items : List Item) (state : State),
      view (items.foldl turn state) = items.foldl seen (view state) :=
    fun items state => (List.foldl_hom view fun state item => (follows state item).symm).symm
  rw [looped, looped, same]
  refine order.foldl_eq' (fun x xs y ys v => ?_) _
  by_cases equal : x = y
  · rw [equal]
  · exact commute x xs y ys equal v

/-- A sorting of items with different keys is the only one. -/
theorem eq_of_sorted_perm {Key : Type} [LinearOrder Key] {key : Item → Key} {first second : List Item}
    (distinct : (first.map key).Nodup) (order : first.Perm second)
    (sorted : first.Pairwise fun a b => key a ≤ key b) (also : second.Pairwise fun a b => key a ≤ key b) :
    first = second := by
  refine List.Perm.eq_of_pairwise (fun a b listed member below above => ?_) sorted also order
  exact List.inj_on_of_nodup_map distinct listed (order.mem_iff.mpr member) (le_antisymm below above)

end

/-! ## Maps -/

variable {Value : Type}

def Map.view (m : Map Value) : String → Option Value := fun key => m.lookup key

theorem sameMap_iff {a b : Map Value} : SameMap a b ↔ a.view = b.view := funext_iff.symm

/-- The order that Go takes through each map. -/
structure RangeOrder (Value : Type) where
  range : Map Value → List ((_ : String) × Value)
  perm : ∀ m, (range m).Perm m.entries

/-- The order of insertion, last first. -/
def RangeOrder.plain (Value : Type) : RangeOrder Value := ⟨AList.entries, fun _ => List.Perm.refl _⟩

def RangeOrder.reversed (Value : Type) : RangeOrder Value :=
  ⟨fun m => m.entries.reverse, fun m => List.reverse_perm m.entries⟩

theorem perm_of_sameMap {a b : Map Value} (same : SameMap a b) : a.entries.Perm b.entries :=
  List.lookup_ext a.nodupKeys b.nodupKeys fun key value => by
    rw [show a.entries.dlookup key = b.entries.dlookup key from same key]

/-- Two ranges over maps with the same entries are permutations of each other. -/
theorem RangeOrder.perm_range (o o' : RangeOrder Value) {a b : Map Value} (same : SameMap a b) :
    (o.range a).Perm (o'.range b) :=
  ((o.perm a).trans (perm_of_sameMap same)).trans (o'.perm b).symm

theorem RangeOrder.mem_range {o : RangeOrder Value} {m : Map Value} {entry : (_ : String) × Value} :
    entry ∈ o.range m ↔ entry ∈ m.entries := (o.perm m).mem_iff

/-- Different entries of a map have different keys. -/
theorem RangeOrder.key_ne {o : RangeOrder Value} {m : Map Value} {x y : (_ : String) × Value}
    (first : x ∈ o.range m) (second : y ∈ o.range m) (apart : x ≠ y) : x.1 ≠ y.1 := by
  intro same
  have distinct : (m.entries.map Sigma.fst).Nodup := m.nodupKeys
  exact apart (List.inj_on_of_nodup_map distinct (mem_range.mp first) (mem_range.mp second) same)

/-- A map copied entry by entry. -/
def RangeOrder.copy (o : RangeOrder Value) (m : Map Value) : Map Value :=
  (o.range m).foldl (fun copy entry => copy.insert entry.1 entry.2) ∅

theorem view_insert (m : Map Value) (key : String) (value : Value) :
    Map.view (m.insert key value) = Function.update (Map.view m) key (some value) :=
  lookup_insert_eq_update m key value

theorem lookup_foldl_insert_entries {entries : List ((_ : String) × Value)} (distinct : entries.NodupKeys)
    (copy : Map Value) (key : String) :
    (entries.foldl (fun copy entry => copy.insert entry.1 entry.2) copy).lookup key =
      (entries.dlookup key).or (copy.lookup key) := by
  induction entries generalizing copy with
  | nil => rfl
  | cons entry rest ih =>
      rw [List.nodupKeys_cons] at distinct
      rw [List.foldl_cons, ih distinct.2]
      by_cases same : key = entry.1
      · subst same
        rw [List.dlookup_eq_none.mpr distinct.1, List.dlookup_cons_eq, AList.lookup_insert]
        rfl
      · rw [List.dlookup_cons_ne _ _ same, AList.lookup_insert_ne same]

theorem RangeOrder.copy_same (o : RangeOrder Value) (m : Map Value) : SameMap (o.copy m) m := by
  intro key
  have distinct : (o.range m).NodupKeys := (List.perm_nodupKeys (o.perm m)).mpr m.nodupKeys
  rw [copy, lookup_foldl_insert_entries distinct, AList.lookup_empty, Option.or_none]
  exact List.perm_dlookup key distinct (o.perm m)

end SprHomeAssistant.Go

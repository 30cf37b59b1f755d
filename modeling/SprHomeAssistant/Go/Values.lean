import Mathlib.Data.List.AList

/-! Go's maps, slices and instants.

The order of a map's entries is the order in which Go happens to range over it; no
result may depend on it. A slice that was never made is `none`, which an encoder tells
apart from an empty one. Instants are nanoseconds since the epoch.
-/

set_option autoImplicit false

namespace SprHomeAssistant.Go

abbrev Map (Value : Type) := AList fun _ : String => Value

variable {Value : Type}

/-- `m[key]`, with the zero value of the element type. -/
def Map.get (m : Map Value) (key : String) (zero : Value) : Value := (m.lookup key).getD zero

/-- The order of a map's entries is not part of it. -/
def SameMap (a b : Map Value) : Prop := ∀ key, a.lookup key = b.lookup key

theorem SameMap.refl (m : Map Value) : SameMap m m := fun _ => rfl

abbrev Slice (Item : Type) := Option (List Item)

def Slice.items {Item : Type} (slice : Slice Item) : List Item := slice.getD []

abbrev Time := Int

def second : Time := 1000000000

/-- `Time.Unix`. -/
def unix (t : Time) : Int := t / second

/-- `a.Sub(b).Seconds()`, without the rounding of a float. -/
def secondsBetween (a b : Time) : Rat := ((a - b : Int) : Rat) / (second : Int)

theorem lookup_insert_eq_update (m : Map Value) (key : String) (value : Value) :
    (fun k => (m.insert key value).lookup k) =
      Function.update (fun k => m.lookup k) key (some value) := by
  funext k
  by_cases same : k = key
  · subst same
    simp
  · simp [same]

/-- What a map holds after an assignment: the new value under its key, the old ones elsewhere. -/
theorem lookup_insert_cases {m : Map Value} {key stored : String} {value held : Value}
    (found : (m.insert key value).lookup stored = some held) :
    (stored = key ∧ held = value) ∨ (stored ≠ key ∧ m.lookup stored = some held) := by
  by_cases same : stored = key
  · subst same
    rw [AList.lookup_insert, Option.some.injEq] at found
    exact Or.inl ⟨rfl, found.symm⟩
  · rw [AList.lookup_insert_ne same] at found
    exact Or.inr ⟨same, found⟩

/-! ## Maps filled in a loop -/

section
variable {Item : Type} {fill : Map Value → Item → Map Value}

theorem mem_foldl_iff {key : String} {adds : Item → Prop}
    (turn : ∀ m item, key ∈ fill m item ↔ key ∈ m ∨ adds item) (items : List Item) (m : Map Value) :
    key ∈ items.foldl fill m ↔ key ∈ m ∨ ∃ item ∈ items, adds item := by
  induction items generalizing m with
  | nil => simp
  | cons item rest ih =>
      rw [List.foldl_cons, ih, turn, or_assoc]
      simp

/-- What every turn stores under a key, the whole loop does. -/
theorem lookup_foldl {key : String} {stores : Value → Prop} {items : List Item}
    (turn : ∀ m, ∀ item ∈ items, (∀ value, m.lookup key = some value → stores value) →
      ∀ value, (fill m item).lookup key = some value → stores value)
    (m : Map Value) (start : ∀ value, m.lookup key = some value → stores value) :
    ∀ value, (items.foldl fill m).lookup key = some value → stores value := by
  induction items generalizing m with
  | nil => exact start
  | cons item rest ih =>
      have next := turn m item List.mem_cons_self start
      exact ih (fun m later member => turn m later (List.mem_cons_of_mem _ member)) _ next

end

end SprHomeAssistant.Go

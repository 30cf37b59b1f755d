import SprHomeAssistant.Go.Numerals
import SprHomeAssistant.Library.Lexicographic
import SprHomeAssistant.Plugin.Updates

/-! `semverLess` beside the numbers that versions are written with.

The pattern takes numerals of any length. A number that does not fit is cut to the greatest
that does, so the comparison is of numbers that are cut.
-/

set_option autoImplicit false

namespace SprHomeAssistant.Plugin
open Go Library.Lexicographic Library.Greatest

/-- The numbers written in a version, whatever their size. -/
def writtenNumbers (s : String) : List Nat :=
  match semverRe (trimSpace s) with
  | some (major, minor, patch) => [decimal major, decimal minor, decimal patch]
  | none => []

/-- A number as `Atoi` returns it. -/
def capped (n : Nat) : Nat := min n (2 ^ 63 - 1)

theorem capped_mono : Monotone capped := fun _ _ below => min_le_min_right _ below

/-- Where the numbers of two versions first differ, one of both is below the greatest that
fits, or the numbers behind, as they are cut, come out in the order of these. -/
def CutKeepsOrder : List Nat → List Nat → Prop
  | x :: xs, y :: ys =>
      if x = y then CutKeepsOrder xs ys
      else x < 2 ^ 63 - 1 ∨ y < 2 ^ 63 - 1 ∨ (xs.map capped < ys.map capped ↔ x < y)
  | _, _ => True

/-! ## The pattern -/

theorem matchNumber_numeral {cs rest : List Char} {number : String}
    (matched : matchNumber cs = some (number, rest)) : IsNumeral number := by
  unfold matchNumber at matched
  rw [List.span_eq_takeWhile_dropWhile] at matched
  split at matched
  · cases matched
  next taken left nonempty spanned =>
    obtain ⟨rfl, rfl⟩ := Prod.mk.inj (Option.some.inj matched)
    obtain ⟨rfl, rfl⟩ := Prod.mk.inj spanned
    constructor
    · rw [String.toList_ofList]
      exact nonempty
    · rw [String.toList_ofList]
      intro c member
      simpa [isDigit, IsDigit] using List.mem_takeWhile_imp member

theorem semverRe_numerals {s major minor patch : String} (matched : semverRe s = some (major, minor, patch)) :
    IsNumeral major ∧ IsNumeral minor ∧ IsNumeral patch := by
  unfold semverRe at matched
  simp only [Option.bind_eq_bind, Option.bind_eq_some_iff] at matched
  obtain ⟨⟨_, _⟩, first, _, _, ⟨_, _⟩, second, _, _, ⟨_, _⟩, third, ended⟩ := matched
  simp only [Option.ite_none_right_eq_some, Option.some.injEq, Prod.mk.injEq] at ended
  obtain ⟨-, rfl, rfl, rfl⟩ := ended
  exact ⟨matchNumber_numeral first, matchNumber_numeral second, matchNumber_numeral third⟩

/-- The components of an accepted version are the numbers written in it, cut where they do
not fit. -/
theorem parseSemver_written {s : String} {v : Semver} (accepted : parseSemver s = some v) :
    ∃ major minor patch : Nat, writtenNumbers s = [major, minor, patch] ∧
      v.major = capped major ∧ v.minor = capped minor ∧ v.patch = capped patch := by
  unfold parseSemver at accepted
  obtain ⟨⟨major, minor, patch⟩, matched, rfl⟩ := Option.map_eq_some_iff.mp accepted
  obtain ⟨first, second, third⟩ := semverRe_numerals matched
  refine ⟨decimal major, decimal minor, decimal patch, ?_, ?_, ?_, ?_⟩
  · simp only [writtenNumbers, matched]
  · exact atoi_numeral first
  · exact atoi_numeral second
  · exact atoi_numeral third

/-! ## The comparison -/

theorem semverLess_capped {a b : String} (first : (parseSemver a).isSome = true)
    (second : (parseSemver b).isSome = true) :
    semverLess a b = true ↔ (writtenNumbers a).map capped < (writtenNumbers b).map capped := by
  obtain ⟨va, parsedA⟩ := Option.isSome_iff_exists.mp first
  obtain ⟨vb, parsedB⟩ := Option.isSome_iff_exists.mp second
  obtain ⟨major, minor, patch, writtenA, majorA, minorA, patchA⟩ := parseSemver_written parsedA
  obtain ⟨major', minor', patch', writtenB, majorB, minorB, patchB⟩ := parseSemver_written parsedB
  have keys : Below versionKey a b ↔ va.key < vb.key := by
    simp [Below, versionKey, parsedA, parsedB]
  rw [semverLess_iff, keys, key_lt_iff, writtenA, writtenB, majorA, minorA, patchA, majorB, minorB, patchB]
  simp only [List.map_cons, List.map_nil, List.cons_lt_cons_iff, Nat.cast_lt, Nat.cast_inj]
  simp

theorem capped_apart_iff {x y : Nat} (differ : x ≠ y) :
    capped x ≠ capped y ↔ x < 2 ^ 63 - 1 ∨ y < 2 ^ 63 - 1 := by
  unfold capped
  omega

theorem keepsOrder_capped_iff (xs : List Nat) : ∀ ys, KeepsOrder capped xs ys ↔ CutKeepsOrder xs ys := by
  induction xs with
  | nil => exact fun ys => Iff.rfl
  | cons x xs ih =>
      intro ys
      cases ys with
      | nil => exact Iff.rfl
      | cons y ys =>
          rw [KeepsOrder, CutKeepsOrder]
          by_cases same : x = y
          · rw [if_pos same, ih ys]
            simp [same]
          · rw [if_neg same, capped_apart_iff same, or_assoc]
            simp [same]

/-- `semverLess` orders two accepted versions by the numbers written in them exactly when the
cut keeps the order of these numbers. -/
theorem semverLess_written_iff (a b : String) (first : (parseSemver a).isSome = true)
    (second : (parseSemver b).isSome = true) :
    (semverLess a b = true ↔ writtenNumbers a < writtenNumbers b) ↔
      CutKeepsOrder (writtenNumbers a) (writtenNumbers b) := by
  rw [semverLess_capped first second, map_lt_iff capped_mono]
  exact keepsOrder_capped_iff _ _

theorem semverLess_written_leadingZeros :
    (semverLess "v1.009.99999999999999999999" " 1.10.0 " = true ↔
      writtenNumbers "v1.009.99999999999999999999" < writtenNumbers " 1.10.0 ") ↔
      CutKeepsOrder (writtenNumbers "v1.009.99999999999999999999") (writtenNumbers " 1.10.0 ") :=
  semverLess_written_iff _ _ (by decide +kernel) (by decide +kernel)

/-- A number that does not fit is taken for the greatest that does. -/
theorem semverLess_not_written :
    ¬ ∀ a b : String, (parseSemver a).isSome = true → (parseSemver b).isSome = true →
      (semverLess a b = true ↔ writtenNumbers a < writtenNumbers b) := by
  intro all
  have numeric := all "9223372036854775807.0.0" "9223372036854775808.0.0" (by decide +kernel)
    (by decide +kernel)
  have equal : semverLess "9223372036854775807.0.0" "9223372036854775808.0.0" = false := by decide +kernel
  have smaller : writtenNumbers "9223372036854775807.0.0" < writtenNumbers "9223372036854775808.0.0" := by
    decide +kernel
  rw [equal] at numeric
  exact absurd (numeric.mpr smaller) Bool.false_ne_true

end SprHomeAssistant.Plugin

import Mathlib.Data.Rat.Floor
import SprHomeAssistant.Library.Rounding
import SprHomeAssistant.Integration.Coordinator

/-! The boot time sensor.

The router reports how long it has been up, in whole seconds. Home Assistant takes that
from its own clock and rounds the difference down to a minute.
-/

set_option autoImplicit false

namespace SprHomeAssistant.Integration
open Library.Rounding

/-- A decoded value in arithmetic on floats; none for infinities and for no number. -/
def numeral : Json → Except PyError (Option Rat)
  | .bool value => .ok (some (if value then 1 else 0))
  | .int value => .ok (some value)
  | .float value => .ok (some value)
  | .nonFinite => .ok none
  | _ => .error .typeError

/-- `x % width` for a positive width: the remainder of a division that rounds down. -/
def remainder (x width : Rat) : Rat := x - width * (x / width).floor

/-- `_uptime_to_boot_time`, at a time in seconds since the epoch. -/
def uptimeToBootTime (ha : HomeAssistant) (utcnow : Rat) (data : SprData) :
    Except PyError (Option Instant) := do
  let uptime := (← data.router.get "uptime_seconds").orElse (.int 0)
  if !uptime.truthy then return none
  match ← numeral uptime with
  | some uptime =>
      let boot := utcnow - uptime
      return some (← ha.utcFromTimestamp (.float (boot - remainder boot 60)))
  -- neither the difference nor its remainder is a number
  | none => return some (← ha.utcFromTimestamp .nonFinite)

theorem sub_remainder (x width : Rat) : x - remainder x width = roundDown width x := by
  rw [remainder, roundDown, sub_sub_cancel]
  rfl

/-- On whole seconds a timestamp is read as it is. -/
def ReadsSeconds (ha : HomeAssistant) : Prop :=
  ∀ seconds : Int, -62135596800 ≤ seconds → seconds < 253402300800 →
    ha.utcFromTimestamp (.float seconds) = .ok (seconds * 1000000)

/-- The documented helpers, also on floats that are whole seconds. -/
def HomeAssistant.withFloats : HomeAssistant where
  formatMac := documentedFormatMac
  utcFromTimestamp
    | .float x => if x.den = 1 then HomeAssistant.documented.utcFromTimestamp (.int x.num) else .error .typeError
    | value => HomeAssistant.documented.utcFromTimestamp value

theorem withFloats_readsSeconds : ReadsSeconds .withFloats := by
  intro seconds low high
  simp [HomeAssistant.withFloats, HomeAssistant.documented, low, high]

/-- A router that has been up for some seconds booted in the minute of the difference. -/
theorem uptimeToBootTime_of_seconds (ha : HomeAssistant) (utcnow : Rat) {data : SprData} {uptime : Int}
    (reported : data.router.get "uptime_seconds" = .ok (.int uptime)) (up : uptime ≠ 0) :
    uptimeToBootTime ha utcnow data =
      some <$> ha.utcFromTimestamp (.float (roundDown 60 (utcnow - uptime))) := by
  have given : (Json.int uptime).truthy = true := by simpa [Json.truthy] using up
  have same : (Json.int uptime).orElse (.int 0) = .int uptime := if_pos given
  unfold uptimeToBootTime
  rw [reported]
  simp only [bind, Except.bind, same, given, numeral, sub_remainder]
  rfl

example : uptimeToBootTime .withFloats 190.5 ⟨.obj [("uptime_seconds", .int 8)], .obj []⟩ =
    .ok (some 180000000) := by decide +kernel

end SprHomeAssistant.Integration

import SprHomeAssistant.Integration.Sensors
import SprHomeAssistant.System.StateDocument

/-! The boot time that Home Assistant shows for a router.

The uptime has lost its fraction when it is published, and it has aged when the sensor
subtracts it. The difference is late by both, and rounding it to the minute hides that
only where it does not carry the boot over a whole minute.
-/

set_option autoImplicit false

namespace SprHomeAssistant.System
open Go Plugin Integration Library.Rounding

/-- A boot that Home Assistant can represent, with the minute after it. -/
structure Boot where
  instant : Rat
  representable : -62135596800 ≤ instant ∧ instant ≤ 253402300740

/-- The seconds between the whole minute before the boot and the boot. -/
def Boot.second (boot : Boot) : Rat := past 60 boot.instant

/-- One evaluation of the sensor, with the refresh and the poll that gave its data. The
router's reading is the time since the boot. -/
structure Evaluation (ha : HomeAssistant) where
  began : Time
  reads : Reads
  store : StateStore
  check : VersionCheck
  readable : reads.devices.isSome = true
  up : 1 ≤ reads.uptime.uptimeTotalSeconds
  coordinator : SprCoordinator
  polled : Instant
  considerHome : Int
  data : SprData
  answered : (asyncUpdateData ha coordinator
    ⟨polled, considerHome, .ok (handleState (refreshState began reads store check).store)⟩).result = .ok data
  delay : Rat
  delayed : 0 ≤ delay ∧ delay ≤ 10

namespace Evaluation
variable {ha : HomeAssistant}

def elapsed (e : Evaluation ha) : Rat := e.reads.uptime.uptimeTotalSeconds

/-- What the sensor gives for a router that has booted at an instant. -/
def bootTime (e : Evaluation ha) (boot : Boot) : Except PyError (Option Instant) :=
  uptimeToBootTime ha (boot.instant + e.elapsed + e.delay) e.data

/-- By how much the difference is late: the fraction that the reading has lost, and its age. -/
def late (e : Evaluation ha) : Rat := Int.fract e.elapsed + e.delay

end Evaluation

def SameBootTime {ha : HomeAssistant} (boot : Boot) (first second : Evaluation ha) : Prop :=
  ∃ minute, first.bootTime boot = .ok (some minute) ∧ second.bootTime boot = .ok (some minute)

/-! ## From the router to the sensor -/

theorem encode_uptime (r : RouterInfo) : r.encode.get "uptime_seconds" = .ok (.int r.uptimeSeconds) := by
  simp only [Json.get, Json.getD, RouterInfo.encode, List.cons_append, List.nil_append, List.append_assoc,
    lookup_field, lookup_omitEmpty]
  simp

theorem answered_router {ha : HomeAssistant} {c : SprCoordinator} {now : Instant} {considerHome : Int}
    {s : StateStore} {data : SprData}
    (answered : (asyncUpdateData ha c ⟨now, considerHome, .ok (handleState s)⟩).result = .ok data) :
    data.router = s.snapshot.router.encode := by
  unfold asyncUpdateData at answered
  simp only [rawDevices_handleState, (handleState_sections s).1] at answered
  split at answered
  · cases answered
  · obtain rfl := Except.ok.inj answered
    rfl

theorem refreshState_uptime (now : Time) {reads : Reads} (readable : reads.devices.isSome = true)
    (s : StateStore) (check : VersionCheck) :
    (refreshState now reads s check).store.snapshot.router.uptimeSeconds =
      truncate reads.uptime.uptimeTotalSeconds := by
  obtain ⟨table, readable⟩ := Option.isSome_iff_exists.mp readable
  rw [refreshState_published readable]
  rfl

theorem truncate_of_nonneg {x : Rat} (nonneg : 0 ≤ x) : truncate x = ⌊x⌋ := if_neg (not_lt.mpr nonneg)

namespace Evaluation
variable {ha : HomeAssistant}

theorem reported (e : Evaluation ha) : e.data.router.get "uptime_seconds" = .ok (.int ⌊e.elapsed⌋) := by
  have nonneg : 0 ≤ e.elapsed := le_trans zero_le_one e.up
  rw [answered_router e.answered, encode_uptime, refreshState_uptime e.began e.readable]
  exact congrArg (fun n => Except.ok (Json.int n)) (truncate_of_nonneg nonneg)

theorem late_bounds (e : Evaluation ha) : 0 ≤ e.late ∧ e.late < 11 := by
  have low := Int.fract_nonneg e.elapsed
  have high := Int.fract_lt_one e.elapsed
  obtain ⟨early, recent⟩ := e.delayed
  rw [late]
  constructor <;> linarith

theorem bootTime_eq (e : Evaluation ha) (boot : Boot) :
    e.bootTime boot = some <$> ha.utcFromTimestamp (.float (roundDown 60 (boot.instant + e.late))) := by
  have up : ⌊e.elapsed⌋ ≠ 0 := by
    have one : (1 : Int) ≤ ⌊e.elapsed⌋ := Int.le_floor.mpr (by exact_mod_cast e.up)
    omega
  have difference : boot.instant + e.elapsed + e.delay - ⌊e.elapsed⌋ = boot.instant + e.late := by
    rw [late, Int.fract]
    ring
  rw [bootTime, uptimeToBootTime_of_seconds ha _ e.reported up, difference]

theorem bootTime_minute (seconds : ReadsSeconds ha) (e : Evaluation ha) (boot : Boot) :
    e.bootTime boot = .ok (some (60 * ⌊(boot.instant + e.late) / 60⌋ * 1000000)) := by
  have whole : roundDown 60 (boot.instant + e.late) = ((60 * ⌊(boot.instant + e.late) / 60⌋ : Int) : Rat) := by
    rw [roundDown]
    push_cast
    rfl
  obtain ⟨low, high⟩ := boot.representable
  obtain ⟨nonneg, below⟩ := e.late_bounds
  have first : -1035593280 ≤ ⌊(boot.instant + e.late) / 60⌋ := by
    rw [Int.le_floor, le_div_iff₀ (by norm_num)]
    push_cast
    linarith
  have last : ⌊(boot.instant + e.late) / 60⌋ < 4223371680 := by
    rw [Int.floor_lt, div_lt_iff₀ (by norm_num)]
    push_cast
    linarith
  rw [bootTime_eq, whole, seconds _ (by omega) (by omega)]
  rfl

/-- An evaluation that is late by a given time. -/
def lateBy (ha : HomeAssistant) (late : Rat) (within : 0 ≤ late ∧ late < 11) : Evaluation ha where
  began := 0
  reads := { tableOnly ∅ with uptime := ⟨1 + (late - min late 10), 0, 0, 0⟩ }
  store := .initial
  check := .initial
  readable := rfl
  up := le_add_of_nonneg_right (sub_nonneg.mpr (min_le_left late 10))
  coordinator := .initial
  polled := 0
  considerHome := 0
  data := _
  answered := rfl
  delay := min late 10
  delayed := ⟨le_min within.1 (by norm_num), min_le_right late 10⟩

theorem lateBy_late (ha : HomeAssistant) {late : Rat} (within : 0 ≤ late ∧ late < 11) :
    (lateBy ha late within).late = late := by
  have fraction : Int.fract (1 + (late - min late 10)) = late - min late 10 := by
    rw [add_comm, Int.fract_add_one, Int.fract_eq_self]
    refine ⟨sub_nonneg.mpr (min_le_left late 10), ?_⟩
    rcases min_cases late 10 with ⟨same, _⟩ | ⟨same, _⟩ <;> rw [same] <;> linarith [within.2]
  change Int.fract (1 + (late - min late 10)) + min late 10 = late
  rw [fraction]
  exact sub_add_cancel _ _

end Evaluation

/-! ## Two evaluations -/

theorem same_iff_roundDown {ha : HomeAssistant} (seconds : ReadsSeconds ha) (boot : Boot)
    (first second : Evaluation ha) :
    SameBootTime boot first second ↔
      roundDown 60 (boot.instant + first.late) = roundDown 60 (boot.instant + second.late) := by
  rw [SameBootTime, first.bootTime_minute seconds, second.bootTime_minute seconds, roundDown, roundDown,
    mul_right_inj' (by norm_num), Int.cast_inj]
  constructor
  · rintro ⟨minute, left, right⟩
    have same : 60 * ⌊(boot.instant + first.late) / 60⌋ * 1000000 =
        60 * ⌊(boot.instant + second.late) / 60⌋ * 1000000 :=
      Option.some.inj (Except.ok.inj (left.trans right.symm))
    omega
  · intro same
    exact ⟨_, rfl, by rw [same]⟩

/-- Two evaluations agree exactly when both or neither are late by enough to reach the next
whole minute. All of them agree exactly when the boot is at most 49 seconds past its minute. -/
theorem boot_time_steady_iff (ha : HomeAssistant) (seconds : ReadsSeconds ha) (boot : Boot) :
    (∀ first second : Evaluation ha, SameBootTime boot first second ↔
      (boot.second + first.late < 60 ↔ boot.second + second.late < 60)) ∧
    ((∀ first second : Evaluation ha, SameBootTime boot first second) ↔ boot.second ≤ 49) := by
  constructor
  · intro first second
    obtain ⟨nonneg, small⟩ := first.late_bounds
    obtain ⟨nonneg', small'⟩ := second.late_bounds
    rw [same_iff_roundDown seconds]
    exact roundDown_add_eq_iff (by norm_num) _ ⟨nonneg, nonneg'⟩ ⟨by linarith, by linarith⟩
  · have fits : boot.second ≤ 49 ↔ past 60 boot.instant + 11 ≤ 60 := by
      rw [Boot.second]
      constructor <;> intro <;> linarith
    rw [fits, ← roundDown_spread_iff (by norm_num) boot.instant (by norm_num) (by norm_num)]
    constructor
    · intro all a b a_within b_within
      have same := (same_iff_roundDown seconds boot _ _).mp
        (all (.lateBy ha a a_within) (.lateBy ha b b_within))
      rwa [Evaluation.lateBy_late, Evaluation.lateBy_late] at same
    · intro all first second
      exact (same_iff_roundDown seconds boot first second).mpr
        (all _ _ first.late_bounds second.late_bounds)

/-- A boot at 55 seconds past a minute. -/
def lateBoot : Boot where
  instant := 1704067255
  representable := by norm_num

theorem lateBoot_second : lateBoot.second = 55 := by
  have floor : ⌊lateBoot.instant / 60⌋ = 28401120 := by
    rw [Int.floor_eq_iff, lateBoot]
    norm_num
  rw [Boot.second, past, roundDown, floor, lateBoot]
  norm_num

theorem boot_time_steady_lateBoot :
    (∀ first second : Evaluation .withFloats, SameBootTime lateBoot first second ↔
      (lateBoot.second + first.late < 60 ↔ lateBoot.second + second.late < 60)) ∧
    ((∀ first second : Evaluation .withFloats, SameBootTime lateBoot first second) ↔ lateBoot.second ≤ 49) :=
  boot_time_steady_iff .withFloats withFloats_readsSeconds lateBoot

/-- Read at once the boot is in its minute, and ten seconds later in the next one. -/
theorem boot_time_jitters :
    ¬ ∀ (ha : HomeAssistant), ReadsSeconds ha → ∀ (boot : Boot) (first second : Evaluation ha),
      SameBootTime boot first second := by
  intro all
  have zero : (0 : Rat) ≤ 0 ∧ (0 : Rat) < 11 := by norm_num
  have ten : (0 : Rat) ≤ 10 ∧ (10 : Rat) < 11 := by norm_num
  have same := all .withFloats withFloats_readsSeconds lateBoot (.lateBy _ 0 zero) (.lateBy _ 10 ten)
  rw [same_iff_roundDown withFloats_readsSeconds, Evaluation.lateBy_late, Evaluation.lateBy_late,
    roundDown_add_eq_iff (by norm_num) _ ⟨le_rfl, by norm_num⟩ ⟨by norm_num, by norm_num⟩] at same
  change lateBoot.second + 0 < 60 ↔ lateBoot.second + 10 < 60 at same
  rw [lateBoot_second] at same
  exact absurd (same.mp (by norm_num)) (by norm_num)

end SprHomeAssistant.System

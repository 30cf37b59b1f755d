import Mathlib.Tactic.FieldSimp
import Mathlib.Tactic.Linarith
import SprHomeAssistant.Library.Logs
import SprHomeAssistant.Library.Runs
import SprHomeAssistant.Plugin.Traffic

/-! The WAN rates along a run of refreshes.

A refresh compares its two totals with those of the last refresh that published. A failed
read leaves a total of zero behind; the guard against counters that were reset does not
see it, since the next total is no smaller.
-/

set_option autoImplicit false

namespace SprHomeAssistant.Plugin
open Go Library.Runs Library.Logs

/-- The two nft sets: `incoming_traffic_wan` and `outgoing_traffic_wan`. -/
inductive TrafficSet where
  | incoming
  | outgoing

namespace TrafficSet

def reply (set : TrafficSet) (reads : Reads) : Option (Slice TrafficElement) :=
  match set with
  | incoming => reads.incomingTraffic
  | outgoing => reads.outgoingTraffic

/-- The total of one read, added up in 64 bits; zero if the read failed. -/
def total (set : TrafficSet) (reads : Reads) : Nat :=
  (sumTraffic (fetchTrafficSet (set.reply reads))).2.toNat

def rate (set : TrafficSet) (traffic : TrafficInfo) : Rat :=
  match set with
  | incoming => traffic.wanRxRate
  | outgoing => traffic.wanTxRate

def prev (set : TrafficSet) (s : StateStore) : UInt64 :=
  match set with
  | incoming => s.prevWANRx
  | outgoing => s.prevWANTx

theorem total_failed {set : TrafficSet} {reads : Reads} (failed : set.reply reads = none) :
    set.total reads = 0 := by
  rw [total, failed]
  rfl

theorem answered_of_total {set : TrafficSet} {reads : Reads} (counted : set.total reads ≠ 0) :
    (set.reply reads).isSome = true := by
  rw [Option.isSome_iff_ne_none]
  exact fun failed => counted (total_failed failed)

end TrafficSet

structure TimedRefresh where
  now : Time
  reads : Reads

def TimedRefresh.publishes (refresh : TimedRefresh) : Bool := refresh.reads.devices.isSome

structure Plugged where
  store : StateStore
  check : VersionCheck

def Plugged.start (check : VersionCheck) : Plugged := ⟨.initial, check⟩

def Plugged.refresh (p : Plugged) (refresh : TimedRefresh) : Plugged :=
  let refreshed := refreshState refresh.now refresh.reads p.store p.check
  ⟨refreshed.store, refreshed.check⟩

/-- The traffic that the last refresh of a run leaves to be served. -/
def trafficAfter (check : VersionCheck) (earlier : List TimedRefresh) (refresh : TimedRefresh) :
    TrafficInfo :=
  (run Plugged.refresh (.start check) (earlier ++ [refresh])).store.snapshot.traffic

/-- A rate that is published and not zero is that of two successful reads. -/
def RateMeasured (check : VersionCheck) (set : TrafficSet) (earlier : List TimedRefresh)
    (refresh : TimedRefresh) : Prop :=
  refresh.publishes = true → set.rate (trafficAfter check earlier refresh) ≠ 0 →
    ∃ first ∈ earlier, first.publishes = true ∧ (set.reply first.reads).isSome = true ∧
      (set.reply refresh.reads).isSome = true ∧ set.total first.reads ≤ set.total refresh.reads ∧
      set.rate (trafficAfter check earlier refresh) =
        8 * (set.total refresh.reads - set.total first.reads) / secondsBetween refresh.now first.now

def lastPublishing (refreshes : List TimedRefresh) : Option TimedRefresh :=
  (refreshes.filter TimedRefresh.publishes).getLast?

/-- A set is read above zero where the read before it failed, and neither total fell. -/
structure AfterMissedRead (set : TrafficSet) (before refresh : TimedRefresh) : Prop where
  failed : set.reply before.reads = none
  counted : set.total refresh.reads ≠ 0
  kept : ∀ other : TrafficSet, other.total before.reads ≤ other.total refresh.reads

/-! ## One refresh -/

theorem lastPublishing_concat (refreshes : List TimedRefresh) (refresh : TimedRefresh) :
    lastPublishing (refreshes ++ [refresh]) =
      if refresh.publishes then some refresh else lastPublishing refreshes := by
  unfold lastPublishing
  cases published : refresh.publishes <;> simp [published]

theorem refresh_silent {p : Plugged} {refresh : TimedRefresh} (silent : ¬ refresh.publishes = true) :
    (p.refresh refresh).store = p.store := by
  have unread : refresh.reads.devices = none := by simpa [TimedRefresh.publishes] using silent
  exact refreshState_unread unread p.store p.check

/-- What a publishing refresh leaves for the next one. -/
theorem refresh_prev {p : Plugged} {refresh : TimedRefresh} (published : refresh.publishes = true) :
    (p.refresh refresh).store.prevTrafficAt = some refresh.now ∧
      ∀ set : TrafficSet, (set.prev (p.refresh refresh).store).toNat = set.total refresh.reads := by
  obtain ⟨devices, read⟩ := Option.isSome_iff_exists.mp published
  rw [Plugged.refresh, refreshState_published read]
  refine ⟨rfl, fun set => ?_⟩
  cases set <;> rfl

theorem forall_set {P : TrafficSet → Prop} : (∀ set, P set) ↔ P .incoming ∧ P .outgoing :=
  ⟨fun all => ⟨all _, all _⟩, fun both set => by cases set; exacts [both.1, both.2]⟩

theorem secondsBetween_pos {a b : Time} (later : b < a) : 0 < secondsBetween a b := by
  have apart : (0 : Rat) < ((a - b : Int) : Rat) := Int.cast_pos.mpr (Int.sub_pos.mpr later)
  exact div_pos apart (by norm_num [second])

theorem secondsBetween_lt {a b c : Time} (older : c < b) : secondsBetween a b < secondsBetween a c := by
  have longer : ((a - b : Int) : Rat) < ((a - c : Int) : Rat) :=
    Int.cast_lt.mpr (Int.sub_lt_sub_left older a)
  exact div_lt_div_of_pos_right longer (by norm_num [second])

/-- Neither total fell against what the store remembers. -/
def Kept (s : StateStore) (reads : Reads) : Prop :=
  ∀ set : TrafficSet, (set.prev s).toNat ≤ set.total reads

theorem kept_iff {s : StateStore} {reads : Reads} :
    Kept s reads ↔ s.prevWANRx ≤ (sumTraffic (fetchTrafficSet reads.incomingTraffic)).2 ∧
      s.prevWANTx ≤ (sumTraffic (fetchTrafficSet reads.outgoingTraffic)).2 := by
  rw [Kept, forall_set, UInt64.le_iff_toNat_le, UInt64.le_iff_toNat_le]
  rfl

theorem refresh_rate {p : Plugged} {refresh : TimedRefresh} {before : Time}
    (published : refresh.publishes = true) (remembered : p.store.prevTrafficAt = some before)
    (later : before < refresh.now) (kept : Kept p.store refresh.reads) (set : TrafficSet) :
    set.rate (p.refresh refresh).store.snapshot.traffic =
      8 * (set.total refresh.reads - (set.prev p.store).toNat) / secondsBetween refresh.now before := by
  obtain ⟨devices, read⟩ := Option.isSome_iff_exists.mp published
  obtain ⟨rx, tx⟩ := kept_iff.mp kept
  have elapsed := secondsBetween_pos later
  simp only [Plugged.refresh, refreshState_published read, publish, applyRates, remembered, gatherFrom,
    elapsed, rx, tx, decide_true, Bool.and_self, if_true]
  have difference : ∀ {a b : UInt64}, a ≤ b → (((b - a).toNat : Nat) : Rat) = b.toNat - a.toNat :=
    fun small => by
      rw [UInt64.toNat_sub_of_le _ _ small, Nat.cast_sub (UInt64.le_iff_toNat_le.mp small)]
  cases set
  · simp only [TrafficSet.rate, TrafficSet.total, TrafficSet.prev, TrafficSet.reply, difference rx, mul_comm]
  · simp only [TrafficSet.rate, TrafficSet.total, TrafficSet.prev, TrafficSet.reply, difference tx, mul_comm]

theorem applyRates_unrated (g : Gathered) {s : StateStore} (traffic : TrafficInfo)
    (unknown : s.prevTrafficAt = none ∨ ¬ (s.prevWANRx ≤ g.wanRxTotal ∧ s.prevWANTx ≤ g.wanTxTotal)) :
    applyRates g s traffic = traffic := by
  unfold applyRates
  rcases unknown with unknown | fell
  · simp only [unknown]
  · split
    next => rfl
    next before remembered =>
      dsimp only
      split
      next guard =>
        simp only [Bool.and_eq_true, decide_eq_true_eq] at guard
        exact absurd ⟨guard.1.2, guard.2⟩ fell
      next => rfl

theorem refresh_no_rate {p : Plugged} {refresh : TimedRefresh} (published : refresh.publishes = true)
    (unknown : p.store.prevTrafficAt = none ∨ ¬ Kept p.store refresh.reads) (set : TrafficSet) :
    set.rate (p.refresh refresh).store.snapshot.traffic = 0 := by
  obtain ⟨devices, read⟩ := Option.isSome_iff_exists.mp published
  rw [kept_iff] at unknown
  have unrated := fun traffic => applyRates_unrated
    (gatherFrom refresh.now devices refresh.reads (checkRelease refresh.reads p.check).1) traffic unknown
  simp only [Plugged.refresh, refreshState_published read, publish, unrated]
  cases set <;> rfl

/-! ## Runs of refreshes -/

/-- The store remembers the last refresh that published, and nothing before the first. -/
theorem run_remembers (check : VersionCheck) (refreshes : List TimedRefresh) :
    let s := (run Plugged.refresh (.start check) refreshes).store
    s.prevTrafficAt = (lastPublishing refreshes).map TimedRefresh.now ∧
      ∀ before, lastPublishing refreshes = some before →
        ∀ set : TrafficSet, (set.prev s).toNat = set.total before.reads := by
  induction refreshes using List.reverseRecOn with
  | nil => exact ⟨rfl, by simp [lastPublishing]⟩
  | append_singleton refreshes refresh ih =>
      simp only [run_concat, lastPublishing_concat]
      by_cases published : refresh.publishes = true
      · obtain ⟨time, totals⟩ := refresh_prev (p := run Plugged.refresh (.start check) refreshes) published
        simp only [published, if_true, Option.map_some, Option.some.injEq]
        refine ⟨time, ?_⟩
        rintro before rfl
        exact totals
      · rw [refresh_silent published, if_neg published]
        exact ih

/-- The refreshes that published before the last one are older than it. -/
theorem older_than_last {earlier : List TimedRefresh} {before first : TimedRefresh}
    (increasing : earlier.Pairwise fun a b => a.now < b.now) (last : lastPublishing earlier = some before)
    (member : first ∈ earlier) (published : first.publishes = true) :
    first = before ∨ first.now < before.now := by
  obtain ⟨init, split⟩ := List.getLast?_eq_some_iff.mp last
  have listed : first ∈ init ++ [before] := split ▸ List.mem_filter.mpr ⟨member, published⟩
  have ordered := split ▸ increasing.filter TimedRefresh.publishes
  rcases List.mem_append.mp listed with old | same
  · exact Or.inr ((List.pairwise_append.mp ordered).2.2 first old before (List.mem_singleton_self _))
  · exact Or.inl (List.mem_singleton.mp same)

theorem lastPublishing_mem {earlier : List TimedRefresh} {before : TimedRefresh}
    (last : lastPublishing earlier = some before) : before ∈ earlier ∧ before.publishes = true :=
  List.mem_filter.mp (List.mem_of_getLast? last)

/-- No longer time makes up for a reading of zero. -/
theorem rate_from_zero_alone {a b t u : Rat} (counted : 0 < b) (shorter : 0 < t) (longer : t < u)
    (read : 0 ≤ a) : 8 * (b - 0) / t ≠ 8 * (b - a) / u := by
  have positive : 0 < u := shorter.trans longer
  have smaller : 8 * (b - a) / u < 8 * b / t :=
    calc 8 * (b - a) / u ≤ 8 * b / u := by gcongr; exact sub_le_self b read
      _ < 8 * b / t := by gcongr
  intro same
  rw [sub_zero] at same
  exact absurd same.symm smaller.ne

/-- The first refresh that publishes has no rate. -/
theorem measured_first {check : VersionCheck} {set : TrafficSet} {earlier : List TimedRefresh}
    {refresh : TimedRefresh} (first : lastPublishing earlier = none) :
    RateMeasured check set earlier refresh := by
  intro published rated
  obtain ⟨remembered, _⟩ := run_remembers check earlier
  rw [first] at remembered
  rw [trafficAfter, run_concat, refresh_no_rate published (Or.inl remembered)] at rated
  exact absurd rfl rated

/-- A rate from zero alone, over the time since the last refresh, is that of no earlier pair. -/
theorem missed_unmeasured {set : TrafficSet} {earlier : List TimedRefresh} {before refresh : TimedRefresh}
    (last : lastPublishing earlier = some before)
    (increasing : earlier.Pairwise fun a b => a.now < b.now) (later : before.now < refresh.now)
    (missed : AfterMissedRead set before refresh) :
    8 * ((set.total refresh.reads : Rat) - set.total before.reads) / secondsBetween refresh.now before.now ≠ 0 ∧
      ¬ ∃ first ∈ earlier, first.publishes = true ∧ (set.reply first.reads).isSome = true ∧
        8 * ((set.total refresh.reads : Rat) - set.total before.reads) / secondsBetween refresh.now before.now =
          8 * (set.total refresh.reads - set.total first.reads) / secondsBetween refresh.now first.now := by
  have positive : (0 : Rat) < set.total refresh.reads := Nat.cast_pos.mpr (Nat.pos_of_ne_zero missed.counted)
  have elapsed := secondsBetween_pos later
  rw [TrafficSet.total_failed missed.failed, Nat.cast_zero]
  constructor
  · rw [sub_zero]
    positivity
  · rintro ⟨first, member, published, answered, same⟩
    rcases older_than_last increasing last member published with rfl | older
    · rw [missed.failed] at answered
      cases answered
    · exact rate_from_zero_alone positive elapsed (secondsBetween_lt older) (Nat.cast_nonneg _) same

/-- One refresh against the last one that published before it. -/
theorem measured_iff {check : VersionCheck} {set : TrafficSet} {earlier : List TimedRefresh}
    {before refresh : TimedRefresh} (last : lastPublishing earlier = some before)
    (increasing : earlier.Pairwise fun a b => a.now < b.now) (later : before.now < refresh.now)
    (published : refresh.publishes = true) :
    RateMeasured check set earlier refresh ↔ ¬ AfterMissedRead set before refresh := by
  obtain ⟨remembered, totals⟩ := run_remembers check earlier
  rw [last, Option.map_some] at remembered
  replace totals := totals before last
  unfold RateMeasured trafficAfter
  rw [run_concat, forall_prop_of_true published]
  generalize run Plugged.refresh (.start check) earlier = p at remembered totals ⊢
  by_cases kept : Kept p.store refresh.reads
  · rw [refresh_rate published remembered later kept, totals set]
    have unreduced : ∀ other : TrafficSet, other.total before.reads ≤ other.total refresh.reads :=
      fun other => totals other ▸ kept other
    constructor
    · intro measured missed
      obtain ⟨rated, alone⟩ := missed_unmeasured last increasing later missed
      obtain ⟨first, member, published, answered, -, -, same⟩ := measured rated
      exact alone ⟨first, member, published, answered, same⟩
    · intro fine rated
      obtain ⟨member, publishing⟩ := lastPublishing_mem last
      have counted : set.total refresh.reads ≠ 0 := by
        intro zero
        have none : set.total before.reads = 0 := Nat.le_zero.mp (zero ▸ unreduced set)
        exact rated (by simp [zero, none])
      have read : (set.reply before.reads).isSome = true := by
        rw [Option.isSome_iff_ne_none]
        exact fun failed => fine ⟨failed, counted, unreduced⟩
      exact ⟨before, member, publishing, read, TrafficSet.answered_of_total counted, unreduced set, rfl⟩
  · rw [refresh_no_rate published (Or.inr kept)]
    refine ⟨fun _ missed => kept fun other => ?_, fun _ rated => absurd rfl rated⟩
    exact (totals other).symm ▸ missed.kept other

/-- A set's rates are those of two successful reads exactly when none of its reads above
zero follows a failed one in a pair of refreshes that both totals come through unreduced. -/
theorem rates_measured_iff (set : TrafficSet) (check : VersionCheck) (refreshes : List TimedRefresh)
    (increasing : refreshes.IsChain fun earlier later => earlier.now < later.now) :
    Always (RateMeasured check set) refreshes ↔
      Always (fun earlier refresh => refresh.publishes = true →
        ∀ before, lastPublishing earlier = some before → ¬ AfterMissedRead set before refresh)
        refreshes := by
  have ordered : refreshes.Pairwise fun earlier later => earlier.now < later.now :=
    haveI : IsTrans TimedRefresh fun a b => a.now < b.now := ⟨fun _ _ _ first second => first.trans second⟩
    List.isChain_iff_pairwise.mp increasing
  apply always_congr
  intro earlier refresh later split
  rw [split] at ordered
  obtain ⟨increasing, _, older⟩ := List.pairwise_append.mp ordered
  by_cases published : refresh.publishes = true
  · rw [forall_prop_of_true published]
    cases last : lastPublishing earlier with
    | none => simpa using measured_first last
    | some before =>
        have now : before.now < refresh.now :=
          older before (lastPublishing_mem last).1 refresh List.mem_cons_self
        simpa using measured_iff last increasing now published
  · exact ⟨fun _ publishes => absurd publishes published, fun _ publishes => absurd publishes published⟩

/-- A refresh whose download read gives some bytes or fails; nothing was uploaded. -/
def downloaded (now : Time) (bytes : Option UInt64) : TimedRefresh where
  now := now
  reads := { tableOnly ∅ with incomingTraffic := bytes.map fun b => some [⟨"192.168.2.100", b⟩] }

theorem rates_measured_downloaded :
    Always (RateMeasured .initial .incoming)
      [downloaded 0 (some 100), downloaded second (some 250), downloaded (2 * second) none] := by
  have split : [downloaded 0 (some 100), downloaded second (some 250), downloaded (2 * second) none] =
      [] ++ [downloaded 0 (some 100)] ++ [downloaded second (some 250)] ++
        [downloaded (2 * second) none] := rfl
  apply (rates_measured_iff .incoming .initial _ ?_).mpr
  · rw [split]
    simp only [always_concat, always_nil, true_and]
    refine ⟨⟨?_, ?_⟩, ?_⟩
    · rintro - before last
      cases last
    · rintro - before last missed
      cases last
      cases missed.failed
    · rintro - before last missed
      exact missed.counted rfl
  · simp only [List.isChain_cons_cons, List.isChain_singleton, and_true]
    exact ⟨by decide, by decide⟩

/-- Ten seconds after a failed read the whole counter is published as a rate. -/
theorem failed_read_makes_rate :
    ¬ ∀ (set : TrafficSet) (check : VersionCheck) (refreshes : List TimedRefresh),
      refreshes.IsChain (fun earlier later => earlier.now < later.now) →
        Always (RateMeasured check set) refreshes := by
  intro all
  have measured := all .incoming .initial [downloaded 0 none, downloaded (10 * second) (some 100)]
    (List.isChain_pair.mpr (by decide)) [downloaded 0 none] (downloaded (10 * second) (some 100)) [] rfl
  have published : TrafficSet.rate .incoming (trafficAfter .initial [downloaded 0 none]
      (downloaded (10 * second) (some 100))) = 80 := by
    decide +kernel
  obtain ⟨first, member, _, answered, _⟩ := measured rfl (by rw [published]; decide)
  obtain rfl := List.mem_singleton.mp member
  cases answered

end SprHomeAssistant.Plugin

import SprHomeAssistant.Library.Growth
import SprHomeAssistant.Plugin.Refresh

/-! The WAN totals of the snapshots that consecutive refreshes publish.

The router keeps its own counters; a refresh reads them in two requests, and each of
them may fail by itself. The published total of a failed read is zero.
-/

set_option autoImplicit false

namespace SprHomeAssistant.Plugin
open Go Library.Growth

/-- The counters as a sum without a limit. -/
def countedBytes (elements : List TrafficElement) : Nat := total (fun el => el.bytes.toNat) elements

def Reports (reply : Option (Slice TrafficElement)) (counters : List TrafficElement) : Prop :=
  ∀ listing, reply = some listing → listing.items = counters

/-- One refresh beside a router whose counters fit in 64 bits. -/
structure MeteredRefresh where
  now : Time
  reads : Reads
  incoming : List TrafficElement
  outgoing : List TrafficElement
  incoming_reported : Reports reads.incomingTraffic incoming
  outgoing_reported : Reports reads.outgoingTraffic outgoing
  incoming_fits : countedBytes incoming < 2 ^ 64
  outgoing_fits : countedBytes outgoing < 2 ^ 64

/-- The router's counters never decrease and no element of them is dropped. -/
def CountersGrow (earlier later : MeteredRefresh) : Prop :=
  Grows TrafficElement.ip (fun el => el.bytes.toNat) earlier.incoming later.incoming ∧
    Grows TrafficElement.ip (fun el => el.bytes.toNat) earlier.outgoing later.outgoing

def publishes (refresh : MeteredRefresh) : Bool := refresh.reads.devices.isSome

/-- The snapshots published by consecutive refreshes, from any state of the store. -/
def publishedSnapshots (s : StateStore) (check : VersionCheck) : List MeteredRefresh → List Snapshot
  | [] => []
  | refresh :: rest =>
      let after := refreshState refresh.now refresh.reads s check
      let later := publishedSnapshots after.store after.check rest
      if publishes refresh then after.store.snapshot :: later else later

def TotalsKept (before after : Snapshot) : Prop :=
  before.traffic.wanRxBytes ≤ after.traffic.wanRxBytes ∧
    before.traffic.wanTxBytes ≤ after.traffic.wanTxBytes

/-! ## The total of one listing -/

theorem addTraffic_total (elements : List TrafficElement) (sums : Map UInt64 × UInt64)
    (fits : sums.2.toNat + countedBytes elements < 2 ^ 64) :
    (elements.foldl addTraffic sums).2.toNat = sums.2.toNat + countedBytes elements := by
  -- along the listing the running total stays below 2^64, so that no addition wraps
  induction elements generalizing sums with
  | nil => rfl
  | cons el rest ih =>
      simp only [countedBytes, total, List.map_cons, List.sum_cons] at fits ih ⊢
      have added : (addTraffic sums el).2.toNat = sums.2.toNat + el.bytes.toNat := by
        rw [addTraffic, UInt64.toNat_add, Nat.mod_eq_of_lt (by omega)]
      rw [List.foldl_cons, ih _ (by omega), added, Nat.add_assoc]

theorem sumTraffic_total {reply : Option (Slice TrafficElement)} {counters : List TrafficElement}
    (reported : Reports reply counters) (fits : countedBytes counters < 2 ^ 64) :
    (sumTraffic (fetchTrafficSet reply)).2.toNat = reading reply.isSome (countedBytes counters) := by
  cases reply with
  | none => rfl
  | some listing =>
      have items : (fetchTrafficSet (some listing)).items = counters := reported listing rfl
      have start : ((∅, 0) : Map UInt64 × UInt64).2.toNat = 0 := rfl
      rw [sumTraffic, items, addTraffic_total _ _ (by omega), start, Nat.zero_add]
      rfl

/-! ## The totals of one refresh -/

theorem applyRates_totals (g : Gathered) (s : StateStore) (traffic : TrafficInfo) :
    (applyRates g s traffic).wanRxBytes = traffic.wanRxBytes ∧
      (applyRates g s traffic).wanTxBytes = traffic.wanTxBytes := by
  unfold applyRates
  split
  · exact ⟨rfl, rfl⟩
  · dsimp only
    split <;> exact ⟨rfl, rfl⟩

/-- Both totals come from this refresh's own reads, whatever the store held. -/
theorem refreshState_totals {refresh : MeteredRefresh} (published : publishes refresh = true)
    (s : StateStore) (check : VersionCheck) :
    let traffic := (refreshState refresh.now refresh.reads s check).store.snapshot.traffic
    traffic.wanRxBytes = (sumTraffic (fetchTrafficSet refresh.reads.incomingTraffic)).2 ∧
      traffic.wanTxBytes = (sumTraffic (fetchTrafficSet refresh.reads.outgoingTraffic)).2 := by
  obtain ⟨devices, read⟩ := Option.isSome_iff_exists.mp published
  rw [refreshState_published read]
  exact applyRates_totals _ s _

def rxReading (refresh : MeteredRefresh) : Nat :=
  reading refresh.reads.incomingTraffic.isSome (countedBytes refresh.incoming)

def txReading (refresh : MeteredRefresh) : Nat :=
  reading refresh.reads.outgoingTraffic.isSome (countedBytes refresh.outgoing)

theorem publishedSnapshots_totals (s : StateStore) (check : VersionCheck)
    (refreshes : List MeteredRefresh) :
    (publishedSnapshots s check refreshes).map
        (fun snap => (snap.traffic.wanRxBytes.toNat, snap.traffic.wanTxBytes.toNat)) =
      (refreshes.filter publishes).map fun refresh => (rxReading refresh, txReading refresh) := by
  induction refreshes generalizing s check with
  | nil => rfl
  | cons refresh rest ih =>
      by_cases published : publishes refresh = true
      · obtain ⟨rx, tx⟩ := refreshState_totals published s check
        simp only [publishedSnapshots, published, if_true, List.filter_cons, List.map_cons, ih, rx, tx,
          sumTraffic_total refresh.incoming_reported refresh.incoming_fits,
          sumTraffic_total refresh.outgoing_reported refresh.outgoing_fits]
        rfl
      · simp [publishedSnapshots, published, ih]

/-! ## The totals along a run -/

/-- From one publishing refresh to the next, a read of counters above zero that was
answered is not followed by a read that fails. -/
def ReadsOn (earlier later : MeteredRefresh) : Prop :=
  (later.reads.incomingTraffic = none →
      earlier.reads.incomingTraffic = none ∨ countedBytes earlier.incoming = 0) ∧
    (later.reads.outgoingTraffic = none →
      earlier.reads.outgoingTraffic = none ∨ countedBytes earlier.outgoing = 0)

def CountedKept (earlier later : MeteredRefresh) : Prop :=
  countedBytes earlier.incoming ≤ countedBytes later.incoming ∧
    countedBytes earlier.outgoing ≤ countedBytes later.outgoing

theorem CountersGrow.counted {earlier later : MeteredRefresh} (grow : CountersGrow earlier later) :
    CountedKept earlier later :=
  ⟨grow.1.total_le, grow.2.total_le⟩

theorem readings_kept_iff {earlier later : MeteredRefresh} (kept : CountedKept earlier later) :
    rxReading earlier ≤ rxReading later ∧ txReading earlier ≤ txReading later ↔
      ReadsOn earlier later := by
  simp only [rxReading, txReading, reading_le_iff kept.1, reading_le_iff kept.2, ReadsOn,
    Option.isSome_eq_false_iff, Option.isNone_iff_eq_none]

theorem published_chain_iff (s : StateStore) (check : VersionCheck) (refreshes : List MeteredRefresh) :
    (publishedSnapshots s check refreshes).IsChain TotalsKept ↔
      (refreshes.filter publishes).IsChain fun earlier later =>
        rxReading earlier ≤ rxReading later ∧ txReading earlier ≤ txReading later := by
  have totals := publishedSnapshots_totals s check refreshes
  have rises := congrArg (List.IsChain fun a b : Nat × Nat => a.1 ≤ b.1 ∧ a.2 ≤ b.2) totals
  rw [List.isChain_map, List.isChain_map] at rises
  exact iff_of_eq rises

/-- While the router's counters only grow, the published totals never fall exactly when,
among the refreshes that publish, no failed read of counters follows an answered one
that was above zero. -/
theorem published_totals_kept_iff (s : StateStore) (check : VersionCheck)
    (refreshes : List MeteredRefresh) (grow : refreshes.IsChain CountersGrow) :
    (publishedSnapshots s check refreshes).IsChain TotalsKept ↔
      (refreshes.filter publishes).IsChain ReadsOn := by
  -- the refreshes in between publish nothing, and the counters only grow across them
  have counted : (refreshes.filter publishes).IsChain CountedKept :=
    isChain_filter (fun _ _ _ first second => ⟨first.1.trans second.1, first.2.trans second.2⟩)
      publishes (grow.imp fun _ _ => CountersGrow.counted)
  rw [← isChain_iff_of_isChain (fun _ _ => readings_kept_iff) counted]
  rw [published_chain_iff]

/-- A refresh whose download counters stand at 100 bytes, read or not; nothing was uploaded. -/
def hundredBytes (read : Bool) : MeteredRefresh where
  now := 0
  reads := { tableOnly ∅ with
    incomingTraffic := if read then some (some [⟨"192.168.2.100", 100⟩]) else none }
  incoming := [⟨"192.168.2.100", 100⟩]
  outgoing := []
  incoming_reported := by cases read <;> simp [Reports, Slice.items]
  outgoing_reported := by simp [Reports, tableOnly]
  incoming_fits := by decide
  outgoing_fits := by decide

theorem hundredBytes_grow (first second : Bool) :
    CountersGrow (hundredBytes first) (hundredBytes second) :=
  ⟨⟨_, [], by rw [List.append_nil]; rfl, List.Forall₂.cons ⟨rfl, le_rfl⟩ .nil⟩,
    ⟨_, [], by rw [List.append_nil]; rfl, .nil⟩⟩

theorem published_totals_kept_hundredBytes :
    (publishedSnapshots .initial .initial [hundredBytes false, hundredBytes true]).IsChain TotalsKept :=
  (published_totals_kept_iff .initial .initial [hundredBytes false, hundredBytes true]
    (List.isChain_pair.mpr (hundredBytes_grow false true))).mpr
    (List.isChain_pair.mpr ⟨fun _ => Or.inl rfl, fun _ => Or.inl rfl⟩)

/-- One failed read after an answered one takes the published total back to zero. -/
theorem failed_read_drops_total :
    ¬ ∀ (s : StateStore) (check : VersionCheck) (refreshes : List MeteredRefresh),
      refreshes.IsChain CountersGrow →
        (publishedSnapshots s check refreshes).IsChain TotalsKept := by
  intro all
  have kept := all .initial .initial [hundredBytes true, hundredBytes false]
    (List.isChain_pair.mpr (hundredBytes_grow true false))
  have readings := (published_chain_iff .initial .initial _).mp kept
  have falls : rxReading (hundredBytes true) = 100 ∧ rxReading (hundredBytes false) = 0 := by decide
  have rises := (List.isChain_pair.mp readings).1
  omega

end SprHomeAssistant.Plugin

import SprHomeAssistant.Plugin.Merge

/-! The uplinks of the router and the LAN side.

A refresh folds the uplinks of the configuration into one name. The local presence merge
and the mDNS beacon both keep away from that name, and from no other uplink.
-/

set_option autoImplicit false

namespace SprHomeAssistant.Plugin
open Go

/-- An interface of the system, with the flags that the beacon looks at. -/
structure NetInterface where
  name : String
  up : Bool
  multicast : Bool
  loopback : Bool
  deriving DecidableEq

/-- `lanInterfaces`, from the answer of `net.Interfaces`. -/
def lanInterfaces (all : Option (List NetInterface)) (wanIface : String) : List NetInterface :=
  (all.getD []).filter fun iface =>
    iface.up && iface.multicast && !iface.loopback && iface.name ≠ wanIface

/-- The interfaces that `advertiseMDNS` registers its beacon on. -/
def advertisedInterfaces (s : StateStore) (all : Option (List NetInterface)) : List NetInterface :=
  lanInterfaces all s.get.router.wanIface

def uplinkNames (ifaces : Slice InterfaceConfig) : List String :=
  (ifaces.items.filter fun iface => iface.type = "Uplink").map InterfaceConfig.name

def OneUplinkName (ifaces : Slice InterfaceConfig) : Prop :=
  ∀ a ∈ uplinkNames ifaces, ∀ b ∈ uplinkNames ifaces, a = b

/-- A connected device is listed by an AP or has a learned entry off every uplink. -/
def ConnectedOffUplinks (reads : Reads) (d : TrackedDevice) : Prop :=
  d.connected = true → ListedByAP reads d.mac ∨
    ∃ entry ∈ reads.fetchArp.items, entry.device ∉ uplinkNames reads.interfaceList ∧
      Learned entry.flags ∧ normalizeMAC entry.mac = d.mac

/-- Whatever else a refresh without topology reads, no uplink makes a device connected or
carries the beacon. -/
def KeepsUplinksApart (ifaces : Slice InterfaceConfig) : Prop :=
  ∀ (now : Time) (reads : Reads) (s : StateStore) (check : VersionCheck),
    reads.interfaces = some ifaces → reads.devices.isSome = true →
    (¬ ∃ topo, reads.AnswersTopology topo) →
    let store := (refreshState now reads s check).store
    (∀ d ∈ store.snapshot.devices.items, ConnectedOffUplinks reads d) ∧
      ∀ all, ∀ iface ∈ advertisedInterfaces store all, iface.name ∉ uplinkNames ifaces

/-! ## The chosen uplink -/

theorem scanned_uplink (items : List InterfaceConfig) :
    let names := (items.filter fun iface => iface.type = "Uplink").map InterfaceConfig.name
    (names = [] ∧ (items.foldl scanInterface (false, "")).2 = "") ∨
      (items.foldl scanInterface (false, "")).2 ∈ names := by
  induction items using List.reverseRecOn with
  | nil => exact Or.inl ⟨rfl, rfl⟩
  | append_singleton items iface ih =>
      simp only [List.filter_append, List.map_append, List.foldl_append, List.foldl_cons, List.foldl_nil]
      generalize items.foldl scanInterface (false, "") = found at ih ⊢
      by_cases uplink : iface.type = "Uplink"
      · right
        simp only [scanInterface, uplink, if_true, List.filter_cons, decide_true, List.filter_nil,
          List.map_cons, List.map_nil, List.mem_append, List.mem_singleton]
        split
        next => exact Or.inr rfl
        next kept =>
          -- a name is kept only if it is not empty, so some uplink has given it
          rcases ih with ⟨_, empty⟩ | chosen
          · simp [empty] at kept
          · exact Or.inl chosen
      · have same : (scanInterface found iface).2 = found.2 := by
          unfold scanInterface
          rw [if_neg uplink]
          split <;> rfl
        simpa [same, uplink] using ih

/-- The scan chooses the name of some uplink, if there is one. -/
theorem OneUplinkName.chosen {ifaces : Slice InterfaceConfig} (one : OneUplinkName ifaces) :
    ∀ name ∈ uplinkNames ifaces, name = (scanInterfaces ifaces).2 := by
  intro name uplink
  rcases scanned_uplink ifaces.items with ⟨none, _⟩ | chosen
  · rw [uplinkNames, none] at uplink
    cases uplink
  · exact one name uplink _ chosen

theorem published_wanIface (now : Time) {reads : Reads} {table : Map DeviceEntry}
    (readable : reads.devices = some table) (s : StateStore) (check : VersionCheck) :
    (refreshState now reads s check).store.snapshot.router.wanIface =
      (scanInterfaces reads.interfaceList).2 := by
  rw [refreshState_published readable]
  rfl

theorem oneNodeEach_of_unanswered {reads : Reads} (unanswered : ¬ ∃ topo, reads.AnswersTopology topo) :
    ∀ topo, reads.topology = some topo → OneNodeEach topo := by
  intro topo replied mac _
  have empty : topo.nodes.items = [] := by
    by_contra nodes
    exact unanswered ⟨topo, replied, nodes⟩
  simp [empty]

theorem keepsUplinksApart_of_oneName {ifaces : Slice InterfaceConfig} (one : OneUplinkName ifaces) :
    KeepsUplinksApart ifaces := by
  intro now reads s check configured readable unanswered store
  obtain ⟨table, readable⟩ := Option.isSome_iff_exists.mp readable
  have wan := published_wanIface now readable s check
  have listed : reads.interfaceList = ifaces := by rw [Reads.interfaceList, configured, Option.getD_some]
  constructor
  · intro d member connected
    have presented := snapshot_presented readable (oneNodeEach_of_unanswered unanswered) s check d member
    rcases (presented.sighted unanswered).mp connected with station | ⟨entry, held, off, learned, named⟩
    · exact Or.inl station
    · refine Or.inr ⟨entry, held, fun uplink => off ?_, learned, named⟩
      rw [wan, listed]
      exact one.chosen _ (listed ▸ uplink)
  · intro all iface registered uplink
    have passed := (List.mem_filter.mp registered).2
    have apart : iface.name ≠ store.snapshot.router.wanIface :=
      of_decide_eq_true (Bool.and_eq_true_iff.mp passed).2
    exact apart ((one.chosen _ uplink).trans (by rw [wan, listed]))

/-! ## A second uplink -/

/-- A neighbour that an interface of the router has learned, and nothing else. -/
def neighbour (ifaces : Slice InterfaceConfig) (device : String) : Reads :=
  { tableOnly (AList.singleton "aa:bb:cc:dd:ee:01" ⟨"", "", "", "", none, none, none⟩) with
    interfaces := some ifaces
    arp := some (some [⟨"0x2", "aa:bb:cc:dd:ee:01", device⟩]) }

theorem neighbour_unlisted (ifaces : Slice InterfaceConfig) (device mac : String) :
    ¬ ListedByAP (neighbour ifaces device) mac := by
  rw [listedByAP_iff]
  rintro ⟨name, n, _, key, held, _⟩
  exact AList.notMem_empty key held

theorem neighbour_unanswered (ifaces : Slice InterfaceConfig) (device : String) :
    ¬ ∃ topo, (neighbour ifaces device).AnswersTopology topo := by
  rintro ⟨topo, replied, _⟩
  cases replied

theorem neighbour_connected {ifaces : Slice InterfaceConfig} {device : String}
    (other : device ≠ (scanInterfaces ifaces).2) (now : Time) (s : StateStore) (check : VersionCheck) :
    ∃ d ∈ (refreshState now (neighbour ifaces device) s check).store.snapshot.devices.items,
      d.connected = true := by
  have unanswered := neighbour_unanswered ifaces device
  have readable : (neighbour ifaces device).devices =
    some (AList.singleton "aa:bb:cc:dd:ee:01" ⟨"", "", "", "", none, none, none⟩) := rfl
  have tracked : "aa:bb:cc:dd:ee:01" ∈
    canonicalMACs (AList.singleton "aa:bb:cc:dd:ee:01" ⟨"", "", "", "", none, none, none⟩) := by decide +kernel
  obtain ⟨d, member, only⟩ := snapshot_device now readable (by decide +kernel) tracked s check
  have named : d.mac = "aa:bb:cc:dd:ee:01" := by
    have kept := only ▸ List.mem_singleton_self d
    exact of_decide_eq_true (List.mem_filter.mp kept).2
  have presented := snapshot_presented readable (oneNodeEach_of_unanswered unanswered) s check d member
  have learned : learnedFlags "0x2" = true := by decide +kernel
  have normal : normalizeMAC "aa:bb:cc:dd:ee:01" = "aa:bb:cc:dd:ee:01" := by decide +kernel
  refine ⟨d, member, (presented.sighted unanswered).mpr (Or.inr ⟨_, List.mem_singleton_self _, ?_, ?_, ?_⟩)⟩
  · rw [published_wanIface now readable]
    exact other
  · exact (learnedFlags_iff _).mp learned
  · rw [named]
    exact normal

/-- One neighbour on an uplink that was not chosen is enough. -/
theorem not_keepsUplinksApart {ifaces : Slice InterfaceConfig} {device : String}
    (uplink : device ∈ uplinkNames ifaces) (other : device ≠ (scanInterfaces ifaces).2) :
    ¬ KeepsUplinksApart ifaces := by
  intro apart
  obtain ⟨d, member, connected⟩ := neighbour_connected other 0 .initial .initial
  obtain ⟨off, _⟩ := apart 0 (neighbour ifaces device) .initial .initial rfl rfl
    (neighbour_unanswered ifaces device)
  rcases off d member connected with station | ⟨entry, held, off, _⟩
  · exact neighbour_unlisted _ _ _ station
  · obtain rfl := List.mem_singleton.mp held
    exact off uplink

/-- The uplinks are kept apart exactly where they all have one name. -/
theorem keepsUplinksApart_iff (ifaces : Slice InterfaceConfig) :
    KeepsUplinksApart ifaces ↔ OneUplinkName ifaces := by
  refine ⟨fun apart => ?_, keepsUplinksApart_of_oneName⟩
  have chosen : ∀ name ∈ uplinkNames ifaces, name = (scanInterfaces ifaces).2 := by
    intro name uplink
    by_contra other
    exact not_keepsUplinksApart uplink other apart
  intro a first b second
  exact (chosen a first).trans (chosen b second).symm

def twoUplinks : Slice InterfaceConfig :=
  some [⟨"eth0", "Uplink", true, none⟩, ⟨"wwan0", "Uplink", true, none⟩]

/-- A neighbour on the cable uplink is at home once the mobile uplink is enabled after it. -/
theorem second_uplink_connects : ¬ ∀ ifaces : Slice InterfaceConfig, KeepsUplinksApart ifaces := by
  intro all
  have uplink : "eth0" ∈ uplinkNames twoUplinks := by decide
  have other : "eth0" ≠ (scanInterfaces twoUplinks).2 := by decide
  exact not_keepsUplinksApart uplink other (all twoUplinks)

end SprHomeAssistant.Plugin

import Mathlib.Data.BitVec
import SprHomeAssistant.Go.Numerals
import SprHomeAssistant.Plugin.Devices

/-! When a published device is connected.

SPR's own presence, where the router has it, decides alone. On other releases a station
list comes before the ARP table, and only what the ARP table adds is wired.
-/

set_option autoImplicit false

namespace SprHomeAssistant.Plugin
open Go

/-! ## What the readings say of a station -/

def DeviceNode (topo : TopoResponse) (mac : String) (node : TopoNode) : Prop :=
  node ∈ topo.nodes.items ∧ node.kind = "device" ∧ normalizeMAC node.mac = mac

/-- No MAC has two device nodes. -/
def OneNodeEach (topo : TopoResponse) : Prop :=
  ∀ mac, isMAC mac = true →
    (topo.nodes.items.filter fun node => node.kind = "device" && normalizeMAC node.mac = mac).length ≤ 1

def Reads.interfaceList (reads : Reads) : Slice InterfaceConfig := reads.interfaces.getD none

/-- The answer to a request for the stations of an interface has the MAC. -/
def ListsStation (reads : Reads) (n : Nat) (name mac : String) : Prop :=
  ∃ key ∈ reads.fetchStations n name, normalizeMAC key = mac

/-- The station lists asked for on behalf of interfaces: one for each enabled AP, and one more
for its guest BSS. -/
def listsAsked (ifaces : List InterfaceConfig) : Nat :=
  ifaces.countP enabledAP + ifaces.countP fun iface => enabledAP iface && !iface.extraBSS.items.isEmpty

/-- An enabled AP lists the station, itself or through its guest BSS. -/
def ListedByAP (reads : Reads) (mac : String) : Prop :=
  ∃ before iface after, reads.interfaceList.items = before ++ iface :: after ∧
    iface.type = "AP" ∧ iface.enabled = true ∧
      (ListsStation reads (listsAsked before) iface.name mac ∨
        iface.extraBSS.items ≠ [] ∧
          ListsStation reads (listsAsked before + 1) (iface.name ++ ".ap0") mac)

/-- A bit of a number in two's complement. -/
def HasBit (flags : Int) (bit : Nat) : Prop := flags / 2 ^ bit % 2 = 1

/-- A hexadecimal number, with `0x` in front of it or without. -/
def WritesFlags (text : String) (flags : Int) : Prop :=
  ∃ numeral, (text.toList = numeral ∨ text.toList = '0' :: 'x' :: numeral) ∧ WritesHex numeral flags

/-- Flags with 0x2, complete, and without 0x4, permanent. -/
def Complete (flags : Int) : Prop := HasBit flags 1 ∧ ¬ HasBit flags 2

/-- Flags of a learned entry that are a signed number of 32 bits. -/
def Learned (text : String) : Prop :=
  ∃ flags, WritesFlags text flags ∧ (-2 ^ 31 ≤ flags ∧ flags < 2 ^ 31) ∧ Complete flags

def LearnedByArp (reads : Reads) (wanIface mac : String) : Prop :=
  ∃ entry ∈ reads.fetchArp.items,
    entry.device ≠ wanIface ∧ Learned entry.flags ∧ normalizeMAC entry.mac = mac

/-! ## The flags of an ARP entry -/

theorem masked_iff {mask : Int64} {bit : Nat} (single : mask.toBitVec = BitVec.twoPow 64 bit)
    (low : bit = 1 ∨ bit = 2) (flags : Int) : Int64.ofInt flags &&& mask ≠ 0 ↔ HasBit flags bit := by
  have read : (BitVec.ofInt 64 flags).getLsbD bit = true ↔ HasBit flags bit := by
    rw [← BitVec.testBit_toNat, BitVec.toNat_ofInt, Nat.testBit_eq_decide_div_mod_eq, decide_eq_true_eq,
      HasBit]
    rcases low with rfl | rfl <;> omega
  rw [← read, ne_eq, ← Int64.toBitVec_inj, Int64.toBitVec_and, single, BitVec.and_twoPow,
    Int64.toBitVec_ofInt]
  cases (BitVec.ofInt 64 flags).getLsbD bit with
  | false => simp
  | true =>
      have nonzero : BitVec.twoPow 64 bit ≠ 0#64 := by rcases low with rfl | rfl <;> decide
      simpa using nonzero

theorem not_writesHex_prefixed (numeral : List Char) (flags : Int) :
    ¬ WritesHex ('0' :: 'x' :: numeral) flags := by
  intro writes
  cases writes with
  | unsigned hex => exact absurd (hex.digits 'x' (by simp)) (by decide)

/-- What `TrimPrefix` leaves of flags is the numeral. -/
theorem writesFlags_iff (text : String) (flags : Int) :
    WritesFlags text flags ↔ WritesHex (trimPrefix text "0x").toList flags := by
  have start : "0x".toList = ['0', 'x'] := rfl
  rw [trimPrefix, start, WritesFlags]
  by_cases prefixed : ['0', 'x'].isPrefixOf text.toList
  · obtain ⟨numeral, whole⟩ := List.isPrefixOf_iff_prefix.mp prefixed
    have whole : text.toList = '0' :: 'x' :: numeral := whole.symm
    rw [if_pos prefixed, whole]
    constructor
    · rintro ⟨other, rfl | same, writes⟩
      · exact absurd writes (not_writesHex_prefixed numeral flags)
      · obtain rfl : numeral = other := by simpa using same
        simpa using writes
    · exact fun writes => ⟨numeral, Or.inr rfl, by simpa using writes⟩
  · rw [if_neg prefixed]
    constructor
    · rintro ⟨numeral, rfl | same, writes⟩
      · exact writes
      · exact absurd (by simp [same]) prefixed
    · exact fun writes => ⟨_, Or.inl rfl, writes⟩

theorem learned_iff (text : String) :
    Learned text ↔ ∃ flags, parseInt (trimPrefix text "0x") 16 32 = (flags, none) ∧ Complete flags := by
  have fits : ∀ flags, parseInt (trimPrefix text "0x") 16 32 = (flags, none) ↔
      WritesHex (trimPrefix text "0x").toList flags ∧ -2 ^ 31 ≤ flags ∧ flags < 2 ^ 31 :=
    parseInt_hex_iff (trimPrefix text "0x") (by norm_num)
  simp only [fits, ← writesFlags_iff, Learned, and_assoc]

theorem learnedFlags_iff (text : String) : learnedFlags text = true ↔ Learned text := by
  rw [learned_iff]
  unfold learnedFlags Complete
  rcases parseInt (trimPrefix text "0x") 16 32 with ⟨flags, err | err⟩
  · have complete := masked_iff (show (0x2 : Int64).toBitVec = BitVec.twoPow 64 1 by decide) (Or.inl rfl) flags
    have permanent := masked_iff (show (0x4 : Int64).toBitVec = BitVec.twoPow 64 2 by decide) (Or.inr rfl) flags
    simp [← complete, ← permanent]
  · simp

/-! ## The station lists that are asked for -/

theorem getElem?_flatMap_iff {Item Part : Type} (parts : Item → List Part) {b : Part} (items : List Item) :
    ∀ n, (items.flatMap parts)[n]? = some b ↔
      ∃ before a after k, items = before ++ a :: after ∧
        n = (before.flatMap parts).length + k ∧ (parts a)[k]? = some b := by
  induction items with
  | nil => simp
  | cons first rest ih =>
      intro n
      rw [List.flatMap_cons]
      constructor
      · intro found
        by_cases own : n < (parts first).length
        · rw [List.getElem?_append_left own] at found
          exact ⟨[], first, rest, n, rfl, by simp, found⟩
        · rw [List.getElem?_append_right (by omega)] at found
          obtain ⟨before, a, after, k, rfl, place, found⟩ := (ih _).mp found
          refine ⟨first :: before, a, after, k, rfl, ?_, found⟩
          rw [List.flatMap_cons, List.length_append]
          omega
      · rintro ⟨before, a, after, k, split, rfl, found⟩
        cases before with
        | nil =>
            obtain ⟨rfl, rfl⟩ := List.cons.inj split
            have own : k < (parts first).length := (List.getElem?_eq_some_iff.mp found).1
            simpa [List.getElem?_append_left own] using found
        | cons other before =>
            obtain ⟨rfl, rfl⟩ := List.cons.inj split
            rw [List.flatMap_cons, List.length_append, List.getElem?_append_right (by omega)]
            exact (ih _).mpr ⟨before, a, after, k, rfl, by omega, found⟩

/-- The lists of one interface, by the place of their request among its own. -/
theorem ownStationNames_iff {iface : InterfaceConfig} {k : Nat} {name : String} :
    (ownStationNames iface)[k]? = some name ↔ iface.type = "AP" ∧ iface.enabled = true ∧
      (k = 0 ∧ name = iface.name ∨
        iface.extraBSS.items ≠ [] ∧ k = 1 ∧ name = iface.name ++ ".ap0") := by
  have ap : enabledAP iface = true ↔ iface.type = "AP" ∧ iface.enabled = true := by simp [enabledAP]
  rw [ownStationNames, ← and_assoc, ← ap]
  by_cases enabled : enabledAP iface = true
  · cases guests : iface.extraBSS.items with
    | nil => rcases k with _ | k <;> simp [enabled, eq_comm]
    | cons guest rest => rcases k with _ | _ | k <;> simp [enabled, eq_comm]
  · simp [enabled]

theorem length_ownStationNames (ifaces : List InterfaceConfig) :
    (ifaces.flatMap ownStationNames).length = listsAsked ifaces := by
  unfold listsAsked
  induction ifaces with
  | nil => rfl
  | cons iface rest ih =>
      rw [List.flatMap_cons, List.length_append, ih, List.countP_cons, List.countP_cons, ownStationNames]
      by_cases ap : enabledAP iface = true
      · cases iface.extraBSS.items <;> simp [ap] <;> omega
      · simp [ap]

theorem listedByAP_iff {reads : Reads} {mac : String} :
    ListedByAP reads mac ↔ ∃ n name, (stationNames reads.interfaceList)[n]? = some name ∧
      ListsStation reads n name mac := by
  simp only [stationNames_eq, getElem?_flatMap_iff, length_ownStationNames, ownStationNames_iff]
  constructor
  · rintro ⟨before, iface, after, among, ap, enabled, listed | ⟨guests, listed⟩⟩
    · exact ⟨_, _, ⟨before, iface, after, 0, among, rfl, ap, enabled, Or.inl ⟨rfl, rfl⟩⟩, listed⟩
    · exact ⟨_, _, ⟨before, iface, after, 1, among, rfl, ap, enabled, Or.inr ⟨guests, rfl, rfl⟩⟩, listed⟩
  · rintro ⟨_, _, ⟨before, iface, after, _, among, rfl, ap, enabled, ⟨rfl, rfl⟩ | ⟨guests, rfl, rfl⟩⟩, listed⟩
    · exact ⟨before, iface, after, among, ap, enabled, Or.inl listed⟩
    · exact ⟨before, iface, after, among, ap, enabled, Or.inr ⟨guests, listed⟩⟩

/-! ## The maps that the readings are collected in -/

/-- The key that an entry is stored under is its MAC, if it has one. -/
theorem mem_store_iff {Value : Type} (m : Map Value) (text : String) {mac : String} (value : Value)
    (valid : isMAC mac = true) :
    (mac ∈ if isMAC (normalizeMAC text) then m.insert (normalizeMAC text) value else m) ↔
      mac ∈ m ∨ normalizeMAC text = mac := by
  by_cases named : isMAC (normalizeMAC text) = true
  · simp [named, or_comm, eq_comm]
  · have apart : normalizeMAC text ≠ mac := fun same => named (same ▸ valid)
    simp [named, apart]

theorem mem_addStation {mac : String} (valid : isMAC mac = true) (name : String) (m : Map StationInfo)
    (entry : (_ : String) × Map String) :
    mac ∈ addStation name m entry ↔ mac ∈ m ∨ normalizeMAC entry.1 = mac := by
  rw [← mem_store_iff m entry.1 (stationInfo name entry.2) valid]
  cases named : isMAC (normalizeMAC entry.1) <;> simp [addStation, named]

theorem mem_addArpEntry {mac : String} (valid : isMAC mac = true) (wanIface : String) (m : Map String)
    (entry : ArpEntry) : mac ∈ addArpEntry wanIface m entry ↔
      mac ∈ m ∨ (entry.device ≠ wanIface ∧ Learned entry.flags ∧ normalizeMAC entry.mac = mac) := by
  unfold addArpEntry
  rw [← learnedFlags_iff]
  by_cases uplink : entry.device = wanIface
  · simp [uplink]
  · cases learned : learnedFlags entry.flags with
    | false => simp [uplink]
    | true => simpa [uplink] using mem_store_iff m entry.mac entry.device valid

theorem mem_addTopoNode {mac : String} (valid : isMAC mac = true) (m : Map TopoPresence) (node : TopoNode) :
    mac ∈ addTopoNode m node ↔ mac ∈ m ∨ (node.kind = "device" ∧ normalizeMAC node.mac = mac) := by
  unfold addTopoNode
  by_cases kind : node.kind = "device"
  · have stored := mem_store_iff m node.mac (topoPresence node) valid
    cases named : isMAC (normalizeMAC node.mac) <;> simpa [kind, named] using stored
  · simp [kind]

theorem mem_collectStations {reads : Reads} {mac : String} (valid : isMAC mac = true) :
    mac ∈ collectStations reads reads.interfaceList ↔ ListedByAP reads mac := by
  have list : ∀ (m : Map StationInfo) (asked : String × Nat),
      mac ∈ (reads.fetchStations asked.2 asked.1).entries.foldl (addStation asked.1) m ↔
        mac ∈ m ∨ ∃ key ∈ reads.fetchStations asked.2 asked.1, normalizeMAC key = mac := by
    intro m asked
    rw [mem_foldl_iff (mem_addStation valid asked.1)]
    simp only [AList.mem_keys, AList.keys, List.keys, List.mem_map, exists_exists_and_eq_and]
  rw [collectStations, listedByAP_iff, mem_foldl_iff list]
  simp only [AList.notMem_empty, false_or, Prod.exists, List.mem_zipIdx_iff_getElem?, ListsStation]
  exact exists_comm

theorem mem_collectArp {reads : Reads} {wanIface mac : String} (valid : isMAC mac = true) :
    mac ∈ collectArp reads wanIface ↔ LearnedByArp reads wanIface mac := by
  rw [collectArp, mem_foldl_iff (mem_addArpEntry valid wanIface)]
  simp [LearnedByArp]

theorem OneNodeEach.unique {topo : TopoResponse} (single : OneNodeEach topo) {mac : String}
    (valid : isMAC mac = true) {first second : TopoNode} (one : DeviceNode topo mac first)
    (other : DeviceNode topo mac second) : first = second := by
  have among : ∀ node, DeviceNode topo mac node →
      node ∈ topo.nodes.items.filter fun node => node.kind = "device" && normalizeMAC node.mac = mac :=
    fun node held => List.mem_filter.mpr ⟨held.1, by simp [held.2.1, held.2.2]⟩
  have few := single mac valid
  generalize (topo.nodes.items.filter fun node =>
    node.kind = "device" && normalizeMAC node.mac = mac) = nodes at among few
  match nodes, among first one, among second other with
  | [only], here, there => exact (List.mem_singleton.mp here).trans (List.mem_singleton.mp there).symm
  | _ :: _ :: _, _, _ => simp at few

/-- The topology's presence of a MAC is that of its device node. -/
theorem lookup_topology {topo : TopoResponse} (single : OneNodeEach topo) {mac : String}
    (valid : isMAC mac = true) (p : TopoPresence) :
    (topo.nodes.items.foldl addTopoNode ∅).lookup mac = some p ↔
      ∃ node, DeviceNode topo mac node ∧ topoPresence node = p := by
  have stored : ∀ p, (topo.nodes.items.foldl addTopoNode ∅).lookup mac = some p →
      ∃ node, DeviceNode topo mac node ∧ topoPresence node = p := by
    refine lookup_foldl (fun m node member held value found => ?_) ∅ (by simp)
    unfold addTopoNode at found
    split at found
    next => exact held value found
    next kind =>
      dsimp only at found
      split at found
      next => exact held value found
      next =>
        obtain ⟨rfl, rfl⟩ | ⟨-, old⟩ := lookup_insert_cases found
        · exact ⟨node, ⟨member, not_not.mp kind, rfl⟩, rfl⟩
        · exact held value old
  refine ⟨stored p, ?_⟩
  rintro ⟨node, named, rfl⟩
  have member : mac ∈ topo.nodes.items.foldl addTopoNode ∅ :=
    (mem_foldl_iff (mem_addTopoNode valid) _ _).mpr (Or.inr ⟨node, named⟩)
  obtain ⟨p, found⟩ := Option.isSome_iff_exists.mp (AList.lookup_isSome.mpr member)
  obtain ⟨other, also, rfl⟩ := stored p found
  rw [found, single.unique valid named also]

theorem deviceNode_iff {topo : TopoResponse} (single : OneNodeEach topo) {mac : String}
    (valid : isMAC mac = true) (told : TopoPresence → Prop) :
    (∃ node, DeviceNode topo mac node ∧ told (topoPresence node)) ↔
      ∃ p, (topo.nodes.items.foldl addTopoNode ∅).lookup mac = some p ∧ told p := by
  simp only [lookup_topology single valid]
  constructor
  · rintro ⟨node, named, said⟩
    exact ⟨_, ⟨node, named, rfl⟩, said⟩
  · rintro ⟨_, ⟨node, named, rfl⟩, said⟩
    exact ⟨node, named, said⟩

/-! ## One device -/

def Reads.AnswersTopology (reads : Reads) (topo : TopoResponse) : Prop :=
  reads.topology = some topo ∧ topo.nodes.items ≠ []

/-- Where a device's presence comes from. -/
structure PresenceMerged (reads : Reads) (wanIface : String) (d : TrackedDevice) : Prop where
  online : ∀ topo, reads.AnswersTopology topo →
    (d.connected = true ↔ ∃ node, DeviceNode topo d.mac node ∧ node.online = true)
  onlineWired : ∀ topo, reads.AnswersTopology topo →
    (d.wired = true ↔ ∃ node, DeviceNode topo d.mac node ∧ node.online = true ∧ node.connType = "wired")
  sighted : (¬ ∃ topo, reads.AnswersTopology topo) →
    (d.connected = true ↔ ListedByAP reads d.mac ∨ LearnedByArp reads wanIface d.mac)
  sightedWired : (¬ ∃ topo, reads.AnswersTopology topo) →
    (d.wired = true ↔ LearnedByArp reads wanIface d.mac ∧ ¬ ListedByAP reads d.mac)
  away : d.connected = false → d.wired = false ∧ d.iface = "" ∧ d.signal = 0

theorem PresenceMerged.of_same {reads : Reads} {wanIface : String} {d d' : TrackedDevice}
    (merged : PresenceMerged reads wanIface d) (mac : d'.mac = d.mac)
    (connected : d'.connected = d.connected) (wired : d'.wired = d.wired) (iface : d'.iface = d.iface)
    (signal : d'.signal = d.signal) : PresenceMerged reads wanIface d' := by
  obtain ⟨online, onlineWired, sighted, sightedWired, away⟩ := merged
  constructor <;> simpa only [mac, connected, wired, iface, signal]

theorem collectPresence_cases (reads : Reads) (wanIface : String) :
    (∃ topo, reads.AnswersTopology topo ∧ collectPresence reads reads.interfaceList wanIface =
      .topology (topo.nodes.items.foldl addTopoNode ∅)) ∨
    ((¬ ∃ topo, reads.AnswersTopology topo) ∧ collectPresence reads reads.interfaceList wanIface =
      .merged (collectStations reads reads.interfaceList) (collectArp reads wanIface)) := by
  unfold collectPresence fetchTopologyPresence
  cases answered : reads.topology with
  | none => exact Or.inr ⟨by simp [Reads.AnswersTopology, answered], rfl⟩
  | some topo =>
      cases nodes : topo.nodes.items with
      | nil => exact Or.inr ⟨by simp [Reads.AnswersTopology, answered, nodes], by simp [nodes]⟩
      | cons node rest =>
          exact Or.inl ⟨topo, ⟨answered, by simp [nodes]⟩, by simp [nodes]⟩

theorem applyPresence_topology (topo : Map TopoPresence) {td : TrackedDevice}
    (fresh : td.connected = false ∧ td.wired = false ∧ td.iface = "" ∧ td.signal = 0) :
    let d := applyPresence (.topology topo) td
    (d.connected = true ↔ ∃ p, topo.lookup td.mac = some p ∧ p.online = true) ∧
      (d.wired = true ↔ ∃ p, topo.lookup td.mac = some p ∧ p.online = true ∧ p.connType = "wired") ∧
      (d.connected = false → d.wired = false ∧ d.iface = "" ∧ d.signal = 0) := by
  obtain ⟨apart, wireless, nowhere, silent⟩ := fresh
  cases found : topo.lookup td.mac with
  | none => simp [applyPresence, found, apart, wireless, nowhere, silent]
  | some p =>
      cases online : p.online <;> simp [applyPresence, found, online, apart, wireless, nowhere, silent]

theorem applyPresence_merged (stations : Map StationInfo) (arpSeen : Map String) {td : TrackedDevice}
    (fresh : td.connected = false ∧ td.wired = false ∧ td.iface = "" ∧ td.signal = 0) :
    let d := applyPresence (.merged stations arpSeen) td
    (d.connected = true ↔ td.mac ∈ stations ∨ td.mac ∈ arpSeen) ∧
      (d.wired = true ↔ td.mac ∈ arpSeen ∧ td.mac ∉ stations) ∧
      (d.connected = false → d.wired = false ∧ d.iface = "" ∧ d.signal = 0) := by
  obtain ⟨apart, wireless, nowhere, silent⟩ := fresh
  simp only [← AList.lookup_isSome]
  cases listed : stations.lookup td.mac with
  | some sta => simp [applyPresence, listed, wireless]
  | none =>
      cases learned : arpSeen.lookup td.mac <;>
        simp [applyPresence, listed, learned, apart, wireless, nowhere, silent]

theorem applyTraffic_keeps (rxByIP txByIP : Map UInt64) (td : TrackedDevice) :
    let d := applyTraffic rxByIP txByIP td
    d.connected = td.connected ∧ d.wired = td.wired ∧ d.iface = td.iface ∧ d.signal = td.signal := by
  simp only [applyTraffic]
  split <;> exact ⟨rfl, rfl, rfl, rfl⟩

theorem newDevice_merged {reads : Reads} {wanIface mac : String}
    (single : ∀ topo, reads.topology = some topo → OneNodeEach topo) (valid : isMAC mac = true)
    (dev : DeviceEntry) :
    PresenceMerged reads wanIface
      (applyPresence (collectPresence reads reads.interfaceList wanIface) (newDevice mac dev)) := by
  have fresh : (newDevice mac dev).connected = false ∧ (newDevice mac dev).wired = false ∧
      (newDevice mac dev).iface = "" ∧ (newDevice mac dev).signal = 0 := ⟨rfl, rfl, rfl, rfl⟩
  have named : (newDevice mac dev).mac = mac := rfl
  obtain ⟨topo, answered, source⟩ | ⟨unanswered, source⟩ := collectPresence_cases reads wanIface
  · rw [source]
    obtain ⟨connected, wired, away⟩ := applyPresence_topology (topo.nodes.items.foldl addTopoNode ∅) fresh
    have node := fun told => deviceNode_iff (single topo answered.1) valid told
    rw [named, ← node] at connected wired
    refine ⟨fun other also => ?_, fun other also => ?_, ?_, ?_, away⟩
    · obtain rfl := Option.some.inj (answered.1.symm.trans also.1)
      rw [applyPresence_mac]
      exact connected
    · obtain rfl := Option.some.inj (answered.1.symm.trans also.1)
      rw [applyPresence_mac]
      exact wired
    · exact fun unanswered => absurd ⟨topo, answered⟩ unanswered
    · exact fun unanswered => absurd ⟨topo, answered⟩ unanswered
  · rw [source]
    obtain ⟨connected, wired, away⟩ := applyPresence_merged
      (collectStations reads reads.interfaceList) (collectArp reads wanIface) fresh
    rw [named, mem_collectStations valid, mem_collectArp valid] at connected wired
    refine ⟨?_, ?_, fun _ => ?_, fun _ => ?_, away⟩
    · exact fun topo answered => absurd ⟨topo, answered⟩ unanswered
    · exact fun topo answered => absurd ⟨topo, answered⟩ unanswered
    · rw [applyPresence_mac]
      exact connected
    · rw [applyPresence_mac]
      exact wired

theorem mergeDevice_merged {now : Time} {table : Map DeviceEntry} {reads : Reads} {latest mac : String}
    (single : ∀ topo, reads.topology = some topo → OneNodeEach topo) (valid : isMAC mac = true)
    (dev : DeviceEntry) :
    PresenceMerged reads (gatherFrom now table reads latest).wanIface
      (mergeDevice (gatherFrom now table reads latest) mac dev) := by
  have merged : PresenceMerged reads (gatherFrom now table reads latest).wanIface
      (applyPresence (gatherFrom now table reads latest).presence (newDevice mac dev)) :=
    newDevice_merged single valid dev
  obtain ⟨connected, wired, iface, signal⟩ := applyTraffic_keeps
    (gatherFrom now table reads latest).rxByIP (gatherFrom now table reads latest).txByIP
    (applyPresence (gatherFrom now table reads latest).presence (newDevice mac dev))
  exact merged.of_same (applyTraffic_mac _ _ _) connected wired iface signal

/-! ## All devices -/

/-- The device loop sights a connected device when the refresh began. -/
structure Presented (reads : Reads) (wanIface : String) (timestamp : Int) (d : TrackedDevice) : Prop
    extends PresenceMerged reads wanIface d where
  seen : d.connected = true → d.lastSeen = timestamp

theorem add_presented {reads : Reads} {wanIface : String} {now : Time} {acc : Tracking}
    {td : TrackedDevice} (merged : PresenceMerged reads wanIface td)
    (before : ∀ d ∈ acc.tracked, Presented reads wanIface (unix now) d) :
    ∀ d ∈ (acc.add now td).tracked, Presented reads wanIface (unix now) d := by
  intro d member
  rcases List.mem_append.mp member with old | new
  · exact before d old
  · obtain rfl := List.mem_singleton.mp new
    refine ⟨merged.of_same rfl rfl rfl rfl rfl, fun connected => ?_⟩
    simp only at connected
    simp [connected, Map.get]

theorem trackDevices_presented {now : Time} {table : Map DeviceEntry} {reads : Reads} {latest : String}
    (single : ∀ topo, reads.topology = some topo → OneNodeEach topo) (lastSeen : Map Int) :
    ∀ d ∈ (trackDevices (gatherFrom now table reads latest) lastSeen).tracked,
      Presented reads (gatherFrom now table reads latest).wanIface (unix now) d := by
  refine List.foldlRecOn (motive := fun acc : Tracking => ∀ d ∈ acc.tracked,
    Presented reads (gatherFrom now table reads latest).wanIface (unix now) d) _ _
    (fun d member => absurd member List.not_mem_nil) ?_
  intro acc before entry _
  obtain ⟨_, skipped⟩ | ⟨mac, canonical, added⟩ := trackEntry_cases (gatherFrom now table reads latest) acc entry
  · rwa [skipped]
  · rw [added]
    exact add_presented (mergeDevice_merged single (canonicalMAC_canonical canonical).1 entry.2) before

theorem filter_mac_singleton {ds : List TrackedDevice} {mac : String}
    (distinct : (ds.map (·.mac)).Nodup) (listed : mac ∈ ds.map (·.mac)) :
    ∃ d ∈ ds, ds.filter (·.mac = mac) = [d] := by
  have once : (ds.filter (·.mac = mac)).map (·.mac) = [mac] := by
    have moved : (ds.filter (·.mac = mac)).map (·.mac) = (ds.map (·.mac)).filter (· = mac) := by
      rw [List.filter_map]
      rfl
    rw [moved, List.filter_eq, List.count_eq_one_of_mem distinct listed, List.replicate_one]
  obtain ⟨d, only, _⟩ := List.map_eq_singleton_iff.mp once
  exact ⟨d, List.mem_of_mem_filter (only ▸ List.mem_singleton_self d), only⟩

theorem snapshot_presented {now : Time} {reads : Reads} {table : Map DeviceEntry}
    (readable : reads.devices = some table)
    (single : ∀ topo, reads.topology = some topo → OneNodeEach topo) (s : StateStore) (check : VersionCheck) :
    let snap := (refreshState now reads s check).store.snapshot
    ∀ d ∈ snap.devices.items, Presented reads snap.router.wanIface snap.timestamp d := by
  rw [refreshState_published readable]
  exact fun d member => trackDevices_presented single _ d ((List.mem_insertionSort _).mp member)

theorem snapshot_device (now : Time) {reads : Reads} {table : Map DeviceEntry} {mac : String}
    (readable : reads.devices = some table) (distinct : (canonicalMACs table).Nodup)
    (tracked : mac ∈ canonicalMACs table) (s : StateStore) (check : VersionCheck) :
    let ds := (refreshState now reads s check).store.snapshot.devices.items
    ∃ d ∈ ds, ds.filter (·.mac = mac) = [d] := by
  rw [refreshState_published readable]
  have lists := (buildSnapshot_lists_iff (gatherFrom now table reads (checkRelease reads check).1)
    s.lastSeen).mpr distinct
  exact filter_mac_singleton (lists.increasing.imp fun below => ne_of_lt below)
    ((lists.complete mac).mpr tracked)

/-- Each device of the table is published once, and connected just when its own source of
presence has it. -/
theorem refreshState_presents (now : Time) (reads : Reads) (s : StateStore) (check : VersionCheck)
    (table : Map DeviceEntry) (readable : reads.devices = some table)
    (distinct : (canonicalMACs table).Nodup)
    (single : ∀ topo, reads.topology = some topo → OneNodeEach topo) :
    let snap := (refreshState now reads s check).store.snapshot
    ∀ mac ∈ canonicalMACs table, ∃ d, snap.devices.items.filter (·.mac = mac) = [d] ∧
      Presented reads snap.router.wanIface snap.timestamp d := by
  intro snap mac tracked
  obtain ⟨d, member, only⟩ := snapshot_device now readable distinct tracked s check
  exact ⟨d, only, snapshot_presented readable single s check d member⟩

/-- A phone on the guest network, and a printer that answered ARP on a wired port. -/
def guestAndPrinter : Reads where
  devices := some ((AList.singleton "aa:bb:cc:dd:ee:01" ⟨"phone", "", "", "", none, none, none⟩).insert
    "printer" ⟨"printer", "AA-BB-CC-DD-EE-02", "", "", none, none, none⟩)
  interfaces := some (some [⟨"eth0", "Uplink", true, none⟩, ⟨"wlan0", "AP", true, some [⟨"guest"⟩]⟩])
  topology := none
  stations := fun _ name =>
    if name = "wlan0.ap0" then some (AList.singleton "AA:BB:CC:DD:EE:01" ∅) else none
  arp := some (some [⟨"0x2", "aa:bb:cc:dd:ee:02", "lan1"⟩, ⟨"0x6", "aa:bb:cc:dd:ee:03", "lan1"⟩])
  incomingTraffic := none
  outgoingTraffic := none
  ipAddrs := none
  uptime := ⟨0, 0, 0, 0⟩
  release := ⟨""⟩
  versions := none
  releasesAvailable := none
  releaseAsked := 0
  releaseAnswered := 0
  hostname := "spr"

theorem refreshState_presents_guestAndPrinter :
    ∃ d, (refreshState 0 guestAndPrinter .initial .initial).store.snapshot.devices.items.filter
        (·.mac = "aa:bb:cc:dd:ee:02") = [d] ∧ Presented guestAndPrinter "eth0" 0 d :=
  refreshState_presents 0 guestAndPrinter .initial .initial _ rfl (by decide +kernel)
    (fun _ answered => nomatch answered) "aa:bb:cc:dd:ee:02" (by decide +kernel)

/-- The printer's entry with the highest of 32 flags raised, and no station list. -/
def highFlag : Reads :=
  { guestAndPrinter with
    stations := fun _ _ => none
    arp := some (some [⟨"0x80000002", "aa:bb:cc:dd:ee:02", "lan1"⟩]) }

/-- Flags are read as a signed number: with the highest one raised they are out of range, and
the entry does not connect its device. -/
theorem highFlag_unlearned :
    let snap := (refreshState 0 highFlag .initial .initial).store.snapshot
    ∃ table d, highFlag.devices = some table ∧ (canonicalMACs table).Nodup ∧ highFlag.topology = none ∧
      "aa:bb:cc:dd:ee:02" ∈ canonicalMACs table ∧
      snap.devices.items.filter (·.mac = "aa:bb:cc:dd:ee:02") = [d] ∧
      ¬ (d.connected = true ↔ ListedByAP highFlag d.mac ∨
        ∃ entry ∈ highFlag.fetchArp.items, entry.device ≠ snap.router.wanIface ∧
          (∃ flags, WritesFlags entry.flags flags ∧ Complete flags) ∧ normalizeMAC entry.mac = d.mac) := by
  have distinct : (canonicalMACs (guestAndPrinter.devices.getD ∅)).Nodup := by decide +kernel
  have tracked : "aa:bb:cc:dd:ee:02" ∈ canonicalMACs (guestAndPrinter.devices.getD ∅) := by decide +kernel
  have readable : highFlag.devices = some (guestAndPrinter.devices.getD ∅) := rfl
  obtain ⟨d, member, only⟩ := snapshot_device 0 readable distinct tracked .initial .initial
  refine ⟨_, d, rfl, distinct, rfl, tracked, only, fun same => ?_⟩
  have named : d.mac = "aa:bb:cc:dd:ee:02" := by
    have kept := only ▸ List.mem_singleton_self d
    exact of_decide_eq_true (List.mem_filter.mp kept).2
  have apart : ((refreshState 0 highFlag .initial .initial).store.snapshot.devices.items.all
      fun d => !(d.connected && d.mac = "aa:bb:cc:dd:ee:02")) = true := by decide +kernel
  have hex : IsHexadecimal ['8', '0', '0', '0', '0', '0', '0', '2'] :=
    ⟨by decide, by simp [IsHexDigit, IsDigit]⟩
  have raised : Complete (hexadecimal ['8', '0', '0', '0', '0', '0', '0', '2']) := by
    unfold Complete HasBit
    decide +kernel
  have connected : d.connected = true := same.mpr (Or.inr ⟨_, List.mem_singleton_self _, by decide +kernel,
    ⟨_, ⟨_, Or.inr rfl, .unsigned hex⟩, raised⟩, by rw [named]; decide +kernel⟩)
  simpa [connected, named] using List.all_eq_true.mp apart d member

end SprHomeAssistant.Plugin

import SprHomeAssistant.Library.Asking
import SprHomeAssistant.Library.Refinement
import SprHomeAssistant.Plugin.Process

/-! A refresh request by request.

The process model answers all requests of a refresh at one moment. Here each of them is
answered at a moment of its own, by a router that may have changed since the last one, and
the bus handlers run between any two.
-/

set_option autoImplicit false

namespace SprHomeAssistant.Plugin.Requests
open Go Library.Asking Library.Runs Library.Refinement

/-! ## What a refresh asks -/

inductive Query where
  | devices
  /-- The public device file, beside the API. -/
  | devicesPublic
  | interfacesConfiguration
  | topology
  | allStations (iface : String)
  | arp
  | traffic (name : String)
  | ipAddr
  | uptime
  | release
  | version
  /-- The clock, beside the API. -/
  | now
  | releasesAvailable
  | hostname

/-- The value that the caller of `sprRequest` goes on with, `none` for an error that it sees. -/
def Query.Reply : Query → Type
  | .devices | .devicesPublic => Option (Map DeviceEntry)
  | .interfacesConfiguration => Option (Slice InterfaceConfig)
  | .topology => Option TopoResponse
  | .allStations _ => Option StationTable
  | .arp => Option (Slice ArpEntry)
  | .traffic _ => Option (Slice TrafficElement)
  | .ipAddr => Option (Slice IPAddr)
  | .uptime => UptimeInfo
  | .release => ReleaseInfo
  | .version => Option (Map String)
  | .now => Time
  | .releasesAvailable => Option (Slice String)
  | .hostname => String

structure Request where
  method : String
  path : String
  deriving DecidableEq

def get (path : String) : Request := ⟨"GET", path⟩

def Query.request : Query → Option Request
  | .devices => some (get "/devices")
  | .interfacesConfiguration => some (get "/interfacesConfiguration")
  | .topology => some (get "/topology")
  | .allStations iface => some (get ("/hostapd/" ++ iface ++ "/all_stations"))
  | .arp => some (get "/arp")
  | .traffic name => some (get ("/traffic/" ++ name))
  | .ipAddr => some (get "/ip/addr")
  | .uptime => some (get "/info/uptime")
  | .release => some (get "/release")
  | .version => some (get "/version")
  | .releasesAvailable => some (get "/releasesAvailable?container=super")
  | .hostname => some (get "/info/hostname")
  | .devicesPublic | .now => none

abbrev Asks (Result : Type) := Program Query.Reply Result

def ask (asked : Query) : Asks asked.Reply := query asked

def fetchSPRDevices : Asks (Option (Map DeviceEntry)) := do
  match ← ask .devices with
  | some devices => return some devices
  -- the public snapshot stands in while the API is down
  | none => ask .devicesPublic

def fetchInterfaces : Asks (Slice InterfaceConfig) := do
  let reply ← ask .interfacesConfiguration
  return reply.getD none

def fetchStations (iface : String) : Asks StationTable := do
  let reply ← ask (.allStations iface)
  return reply.getD ∅

def fetchArp : Asks (Slice ArpEntry) := do
  let reply ← ask .arp
  return reply.getD none

def fetchTrafficSet (name : String) : Asks (Slice TrafficElement) := do
  let reply ← ask (.traffic name)
  return reply.getD none

def fetchIPAddrs : Asks (Slice IPAddr) := do
  let reply ← ask .ipAddr
  return reply.getD none

def fetchVersion : Asks String := do
  match ← ask .version with
  | none => return ""
  | some versions =>
      match versions.lookup "superd" with
      | some v => return v
      | none =>
          match versions.entries with
          | [] => return ""
          | ⟨_, v⟩ :: _ => return v

def latestAvailableVersion (current : String) (check : VersionCheck) : Asks (String × VersionCheck) :=
  if (parseSemver current).isNone then return ("", check)
  else do
    let now ← ask .now
    if check.fresh now then return (check.result, check)
    else
      match ← ask .releasesAvailable with
      | none => return (check.result, check)
      | some tags =>
          let best := tags.items.foldl bestTag ""
          let answered ← ask .now
          return (best, ⟨some answered, best⟩)

def collectStations : List String → Map StationInfo → Asks (Map StationInfo)
  | [], stations => return stations
  | name :: rest, stations => do
      let table ← fetchStations name
      collectStations rest (table.entries.foldl (addStation name) stations)

def collectPresence (ifaces : Slice InterfaceConfig) (wanIface : String) : Asks Presence := do
  let reply ← ask .topology
  match fetchTopologyPresence reply with
  | some topo => return .topology topo
  | none => do
      let stations ← collectStations (stationNames ifaces) ∅
      let arp ← fetchArp
      return .merged stations (arp.items.foldl (addArpEntry wanIface) ∅)

/-- Up to the copy of the shared state. The hostname is asked for after it. -/
def gather (now : Time) (check : VersionCheck) : Asks (Option (String → Gathered) × VersionCheck) := do
  match ← fetchSPRDevices with
  | none => return (none, check)
  | some devices => do
      let ifaces ← fetchInterfaces
      let found := scanInterfaces ifaces
      let presence ← collectPresence ifaces found.2
      let incoming ← fetchTrafficSet "incoming_traffic_wan"
      let outgoing ← fetchTrafficSet "outgoing_traffic_wan"
      let addrs ← fetchIPAddrs
      let uptime ← ask .uptime
      let release ← ask .release
      let superd ← fetchVersion
      let version := if superd = "" then release.current else superd
      let latest ← latestAvailableVersion version check
      let gathered := fun hostname =>
        { now := now
          devices := devices
          guestEnabled := found.1
          wanIface := found.2
          presence := presence
          rxByIP := (sumTraffic incoming).1
          txByIP := (sumTraffic outgoing).1
          wanRxTotal := (sumTraffic incoming).2
          wanTxTotal := (sumTraffic outgoing).2
          wanIP := (wanAddress addrs found.2).1
          wanUp := (wanAddress addrs found.2).2
          uptime := uptime
          version := version
          latest := latest.1
          hostname := hostname }
      return (some gathered, latest.2)

/-! ## The readings that the replies come to -/

def requests (answers : List (Exchange Query.Reply)) : List Request := answers.filterMap (·.1.request)

def trafficSet (reads : Reads) (name : String) : Option (Slice TrafficElement) :=
  if name = "incoming_traffic_wan" then reads.incomingTraffic else reads.outgoingTraffic

/-- That an answer is one of these readings. -/
def Gives (reads : Reads) : Exchange Query.Reply → Prop
  | ⟨.devices, reply⟩ => Option.isSome reply = true → reads.devices = reply
  | ⟨.devicesPublic, reply⟩ => reads.devices = reply
  | ⟨.interfacesConfiguration, reply⟩ => reads.interfaces = reply
  | ⟨.topology, reply⟩ => reads.topology = reply
  | ⟨.allStations iface, reply⟩ => ∃ n, reads.stations n iface = reply
  | ⟨.arp, reply⟩ => reads.arp = reply
  | ⟨.traffic name, reply⟩ => trafficSet reads name = reply
  | ⟨.ipAddr, reply⟩ => reads.ipAddrs = reply
  | ⟨.uptime, reply⟩ => reads.uptime = reply
  | ⟨.release, reply⟩ => reads.release = reply
  | ⟨.version, reply⟩ => reads.versions = reply
  | ⟨.now, reply⟩ => reads.releaseAsked = reply ∨ reads.releaseAnswered = reply
  | ⟨.releasesAvailable, reply⟩ => reads.releasesAvailable = reply
  | ⟨.hostname, reply⟩ => reads.hostname = reply

def clockRead : Exchange Query.Reply → Option Time
  | ⟨.now, reply⟩ => some reply
  | _ => none

/-- A refresh that reads this, so far. The first time it looks at the clock, it is for the age
of the last release check. -/
structure GoesBy (reads : Reads) (answers : List (Exchange Query.Reply)) : Prop where
  gives : ∀ answer ∈ answers, Gives reads answer
  clock : ∀ now, answers.findSome? clockRead = some now → reads.releaseAsked = now

/-- An enabled AP is asked for its stations, and its guest BSS for the ones there. -/
def stationRequests (iface : InterfaceConfig) : List Request :=
  if iface.type = "AP" && iface.enabled then
    if iface.extraBSS.items.isEmpty then [get ("/hostapd/" ++ iface.name ++ "/all_stations")]
    else [get ("/hostapd/" ++ iface.name ++ "/all_stations"), get ("/hostapd/" ++ iface.name ++ ".ap0/all_stations")]
  else []

/-- A topology with a node in it stands for the station lists and the ARP table. -/
def presenceRequests (reads : Reads) : List Request :=
  get "/topology" ::
    if reads.topology.any (fun topo => !topo.nodes.items.isEmpty) then []
    else (reads.interfaces.getD none).items.flatMap stationRequests ++ [get "/arp"]

/-- The registry is asked about a plain semver, when its last answer is an hour old. -/
def registryRequests (reads : Reads) (check : VersionCheck) : List Request :=
  if (parseSemver (resolveVersion reads)).isSome ∧ ∀ t ∈ check.checkedAt, t + 3600 * second ≤ reads.releaseAsked then
    [get "/releasesAvailable?container=super"]
  else []

/-- The requests of a refresh up to its copy of the shared state. -/
def requestsOf (reads : Reads) (check : VersionCheck) : List Request :=
  match reads.devices with
  | none => [get "/devices"]
  | some _ =>
      [get "/devices", get "/interfacesConfiguration"] ++ presenceRequests reads ++
        [get "/traffic/incoming_traffic_wan", get "/traffic/outgoing_traffic_wan", get "/ip/addr",
          get "/info/uptime", get "/release", get "/version"] ++
        registryRequests reads check

/-- The newest tag of the registry's answer, with the clock as it was read behind it. -/
def registryCheck : List (Exchange Query.Reply) → Option VersionCheck
  | ⟨.releasesAvailable, some tags⟩ :: ⟨.now, answered⟩ :: _ =>
      some ⟨some answered, tags.items.foldl bestTag ""⟩
  | _ :: rest => registryCheck rest
  | [] => none

/-- An answer that has no part in the release check. -/
def Beside (answer : Exchange Query.Reply) : Prop := answer.1 ≠ .releasesAvailable ∧ answer.1 ≠ .now

theorem registryCheck_cons {answer : Exchange Query.Reply} (beside : Beside answer)
    (rest : List (Exchange Query.Reply)) : registryCheck (answer :: rest) = registryCheck rest := by
  obtain ⟨asked, reply⟩ := answer
  cases asked <;> first | exact absurd rfl beside.1 | simp [registryCheck]

theorem registryCheck_append {before : List (Exchange Query.Reply)} (beside : ∀ answer ∈ before, Beside answer)
    (rest : List (Exchange Query.Reply)) : registryCheck (before ++ rest) = registryCheck rest := by
  induction before with
  | nil => rfl
  | cons answer before ih =>
      obtain ⟨first, later⟩ := List.forall_mem_cons.mp beside
      rw [List.cons_append, registryCheck_cons first, ih later]

theorem clockRead_append {before : List (Exchange Query.Reply)} (beside : ∀ answer ∈ before, Beside answer)
    (rest : List (Exchange Query.Reply)) :
    (before ++ rest).findSome? clockRead = rest.findSome? clockRead := by
  have unread : before.findSome? clockRead = none := by
    rw [List.findSome?_eq_none_iff]
    rintro ⟨asked, reply⟩ member
    have apart := (beside _ member).2
    cases asked <;> first | exact absurd rfl apart | rfl
  rw [List.findSome?_append, unread, Option.none_or]

theorem registryCheck_hostname (answers : List (Exchange Query.Reply)) (hostname : String) :
    registryCheck (answers ++ [⟨.hostname, hostname⟩]) = registryCheck answers := by
  induction answers using registryCheck.induct with
  | case1 tags answered rest => simp [registryCheck]
  | case2 answer rest apart ih =>
      -- the clock is never the hostname, so no pair is made at the end
      have later : ∀ tags answered after, answer = ⟨.releasesAvailable, some tags⟩ →
          rest ++ [⟨.hostname, hostname⟩] = ⟨.now, answered⟩ :: after → False := by
        intro tags answered after asked split
        cases rest with
        | nil => exact nomatch congrArg Sigma.fst (List.cons.inj split).1
        | cons first rest =>
            obtain ⟨rfl, -⟩ := List.cons.inj split
            exact apart tags answered rest asked rfl
      rw [List.cons_append, registryCheck.eq_2 _ _ later, registryCheck.eq_2 _ _ apart, ih]
  | case3 => simp [registryCheck]

theorem fresh_iff {check : VersionCheck} {now : Time} :
    check.fresh now = true ↔ ¬ ∀ t ∈ check.checkedAt, t + 3600 * second ≤ now := by
  unfold VersionCheck.fresh
  cases check.checkedAt with
  | none => simp
  | some t =>
      change decide (now - t < 3600 * second) = true ↔ _
      simp [sub_lt_iff_lt_add']

theorem ownStationNames_requests (iface : InterfaceConfig) :
    (ownStationNames iface).map (fun name => get ("/hostapd/" ++ name ++ "/all_stations")) = stationRequests iface := by
  unfold ownStationNames enabledAP stationRequests
  split
  next =>
    split
    · rfl
    · simp [String.append_assoc]
  next => rfl

theorem presenceRequests_of (reads : Reads) :
    presenceRequests reads = get "/topology" ::
      match fetchTopologyPresence reads.topology with
      | some _ => []
      | none =>
          (stationNames (reads.interfaces.getD none)).map
            (fun name => get ("/hostapd/" ++ name ++ "/all_stations")) ++ [get "/arp"] := by
  rw [presenceRequests, stationNames_eq, List.map_flatMap, funext ownStationNames_requests]
  cases reads.topology with
  | none => rfl
  | some topo =>
      cases nodes : topo.nodes.items.isEmpty <;> simp [fetchTopologyPresence, nodes]

/-- One query, and something made of its reply. -/
theorem path_fetch {asked : Query} {Result : Type} {made : asked.Reply → Result} {answers : List (Exchange Query.Reply)}
    {result : Result} (path : Path (do let reply ← ask asked; return made reply) answers result) :
    ∃ reply, answers = [⟨asked, reply⟩] ∧ result = made reply := by
  obtain ⟨reply, rest, rfl, onward⟩ := path_ask path
  obtain ⟨rfl, rfl⟩ := path_pure onward
  exact ⟨reply, rfl, rfl⟩

theorem fetchSPRDevices_path {answers : List (Exchange Query.Reply)} {devices : Option (Map DeviceEntry)}
    (path : Path fetchSPRDevices answers devices) :
    requests answers = [get "/devices"] ∧ (∀ answer ∈ answers, Beside answer) ∧
      ∀ reads : Reads, (∀ answer ∈ answers, Gives reads answer) ↔ reads.devices = devices := by
  obtain ⟨reply, rest, rfl, onward⟩ := path_ask path
  cases reply with
  | some table =>
      obtain ⟨rfl, rfl⟩ := path_pure onward
      exact ⟨rfl, by simp [Beside], by simp [Gives]⟩
  | none =>
      obtain rfl := path_query onward
      exact ⟨rfl, by simp [Beside], by simp [Gives]⟩

theorem fetchVersion_path {answers : List (Exchange Query.Reply)} {version : String}
    (path : Path fetchVersion answers version) :
    ∃ versions, answers = [⟨.version, versions⟩] ∧
      ∀ reads : Reads, reads.versions = versions → version = reads.fetchVersion := by
  obtain ⟨reply, rest, rfl, onward⟩ := path_ask path
  refine ⟨reply, ?_⟩
  cases reply with
  | none =>
      obtain ⟨rfl, rfl⟩ := path_pure onward
      exact ⟨rfl, fun reads same => by rw [Reads.fetchVersion, same]⟩
  | some versions =>
      simp only at onward
      split at onward
      next v found =>
        obtain ⟨rfl, rfl⟩ := path_pure onward
        exact ⟨rfl, fun reads same => by rw [Reads.fetchVersion, same]; simp [found]⟩
      next missing =>
        split at onward
        next empty =>
          obtain ⟨rfl, rfl⟩ := path_pure onward
          exact ⟨rfl, fun reads same => by rw [Reads.fetchVersion, same]; simp [missing, empty]⟩
        next entries =>
          obtain ⟨rfl, rfl⟩ := path_pure onward
          exact ⟨rfl, fun reads same => by rw [Reads.fetchVersion, same]; simp [missing, entries]⟩

/-- The ways through the release check. -/
inductive Checked (current : String) (check : VersionCheck) :
    List (Exchange Query.Reply) → String × VersionCheck → Prop where
  | unparsed (odd : (parseSemver current).isNone = true) : Checked current check [] ("", check)
  /-- A check of the last hour is not repeated. -/
  | fresh {now : Time} (plain : ¬ (parseSemver current).isNone = true) (recent : check.fresh now = true) :
      Checked current check [⟨.now, now⟩] (check.result, check)
  | refused {now : Time} (plain : ¬ (parseSemver current).isNone = true) (stale : ¬ check.fresh now = true) :
      Checked current check [⟨.now, now⟩, ⟨.releasesAvailable, none⟩] (check.result, check)
  | answered {now : Time} (plain : ¬ (parseSemver current).isNone = true) (stale : ¬ check.fresh now = true)
      (tags : Slice String) (answered : Time) :
      Checked current check [⟨.now, now⟩, ⟨.releasesAvailable, some tags⟩, ⟨.now, answered⟩]
        (tags.items.foldl bestTag "", ⟨some answered, tags.items.foldl bestTag ""⟩)

theorem latestAvailableVersion_path {current : String} {check : VersionCheck} {answers : List (Exchange Query.Reply)}
    {result : String × VersionCheck} (path : Path (latestAvailableVersion current check) answers result) :
    Checked current check answers result := by
  unfold latestAvailableVersion at path
  split at path
  next odd =>
    obtain ⟨rfl, rfl⟩ := path_pure path
    exact .unparsed odd
  next plain =>
    obtain ⟨now, rest, rfl, second⟩ := path_ask path
    split at second
    next recent =>
      obtain ⟨rfl, rfl⟩ := path_pure second
      exact .fresh plain recent
    next stale =>
      obtain ⟨reply, rest, rfl, third⟩ := path_ask second
      cases reply with
      | none =>
          obtain ⟨rfl, rfl⟩ := path_pure third
          exact .refused plain stale
      | some tags =>
          obtain ⟨answered, rest, rfl, fourth⟩ := path_ask third
          obtain ⟨rfl, rfl⟩ := path_pure fourth
          exact .answered plain stale tags answered

theorem Checked.check_eq {current : String} {check : VersionCheck} {answers : List (Exchange Query.Reply)}
    {result : String × VersionCheck} (checked : Checked current check answers result) :
    result.2 = (registryCheck answers).getD check := by
  cases checked <;> simp [registryCheck]

theorem registryRequests_due {reads : Reads} {check : VersionCheck} {now : Time} (asked : reads.releaseAsked = now)
    (plain : ¬ (parseSemver (resolveVersion reads)).isNone = true) (stale : ¬ check.fresh now = true) :
    registryRequests reads check = [get "/releasesAvailable?container=super"] := by
  have semver : (parseSemver (resolveVersion reads)).isSome = true := by
    simpa [Option.isSome_iff_ne_none] using plain
  rw [registryRequests, asked, if_pos ⟨semver, not_not.mp (mt fresh_iff.mpr stale)⟩]

theorem Checked.asks {check : VersionCheck} {answers : List (Exchange Query.Reply)} {result : String × VersionCheck}
    {reads : Reads} (checked : Checked (resolveVersion reads) check answers result) (goes : GoesBy reads answers) :
    requests answers = registryRequests reads check := by
  cases checked with
  | unparsed odd =>
      have other : ¬ (parseSemver (resolveVersion reads)).isSome = true := by
        simpa [Option.isSome_iff_ne_none] using odd
      rw [registryRequests, if_neg fun due => other due.1]
      rfl
  | @fresh now plain recent =>
      have asked : reads.releaseAsked = now := goes.clock now rfl
      rw [registryRequests, asked, if_neg fun due => fresh_iff.mp recent due.2]
      rfl
  | @refused now plain stale => exact (registryRequests_due (goes.clock now rfl) plain stale).symm
  | @answered now plain stale tags answered => exact (registryRequests_due (goes.clock now rfl) plain stale).symm

/-- Readings of the clock and the registry make a way through the check the process model's. -/
theorem Checked.exists_reads {current : String} {check : VersionCheck} {answers : List (Exchange Query.Reply)}
    {result : String × VersionCheck} (checked : Checked current check answers result) :
    ∃ asked answered tags, ∀ reads : Reads, reads.releaseAsked = asked → reads.releaseAnswered = answered →
      reads.releasesAvailable = tags →
        result = Plugin.latestAvailableVersion current check asked answered tags ∧ GoesBy reads answers := by
  cases checked with
  | unparsed odd =>
      exact ⟨0, 0, none, fun reads _ _ _ =>
        ⟨by simp [Plugin.latestAvailableVersion, odd], List.forall_mem_nil _, by simp⟩⟩
  | @fresh now plain recent =>
      refine ⟨now, 0, none, fun reads asked _ _ => ⟨by simp [Plugin.latestAvailableVersion, plain, recent], ?_, ?_⟩⟩
      · exact List.forall_mem_cons.mpr ⟨Or.inl asked, List.forall_mem_nil _⟩
      · exact fun _ first => asked.trans (Option.some.inj first)
  | @refused now plain stale =>
      refine ⟨now, 0, none, fun reads asked _ tags => ⟨by simp [Plugin.latestAvailableVersion, plain, stale], ?_, ?_⟩⟩
      · exact List.forall_mem_cons.mpr ⟨Or.inl asked, List.forall_mem_cons.mpr ⟨tags, List.forall_mem_nil _⟩⟩
      · exact fun _ first => asked.trans (Option.some.inj first)
  | @answered now plain stale tags answered =>
      refine ⟨now, answered, some tags, fun reads asked answeredAt given =>
        ⟨by simp [Plugin.latestAvailableVersion, plain, stale], ?_, ?_⟩⟩
      · exact List.forall_mem_cons.mpr ⟨Or.inl asked, List.forall_mem_cons.mpr ⟨given,
          List.forall_mem_cons.mpr ⟨Or.inr answeredAt, List.forall_mem_nil _⟩⟩⟩
      · exact fun _ first => asked.trans (Option.some.inj first)

theorem collectStations_path {names : List String} {stations result : Map StationInfo}
    {answers : List (Exchange Query.Reply)} (path : Path (collectStations names stations) answers result) :
    ∃ replies : List (Option StationTable), replies.length = names.length ∧
      answers = (names.zip replies).map (fun entry => ⟨.allStations entry.1, entry.2⟩) ∧
      result = (names.zip replies).foldl
        (fun stations entry => (entry.2.getD ∅).entries.foldl (addStation entry.1) stations) stations := by
  induction names generalizing stations answers with
  | nil =>
      obtain ⟨rfl, rfl⟩ := path_pure path
      exact ⟨[], rfl, rfl, rfl⟩
  | cons name rest ih =>
      obtain ⟨first, later, table, rfl, fetched, onward⟩ := path_bind path
      obtain ⟨reply, rfl, rfl⟩ := path_fetch fetched
      obtain ⟨replies, length, rfl, rfl⟩ := ih onward
      exact ⟨reply :: replies, congrArg (· + 1) length, rfl, rfl⟩

/-- The readings number the station lists in the order of their requests. -/
theorem zipIdx_replies {names : List String} {replies : List (Option StationTable)}
    (length : replies.length = names.length) :
    names.zipIdx.map (fun entry => (entry.1, (replies[entry.2]?).getD none)) = names.zip replies := by
  refine List.ext_getElem (by simp [length]) fun i left right => ?_
  have within : i < replies.length := by simp_all
  simp [within]

theorem requests_append (first rest : List (Exchange Query.Reply)) :
    requests (first ++ rest) = requests first ++ requests rest := List.filterMap_append

theorem requests_cons (answer : Exchange Query.Reply) (rest : List (Exchange Query.Reply)) :
    requests (answer :: rest) = answer.1.request.toList ++ requests rest := by
  simp only [requests, List.filterMap_cons]
  cases answer.1.request <;> rfl

theorem requests_allStations {names : List String} {replies : List (Option StationTable)}
    (length : replies.length = names.length) :
    requests ((names.zip replies).map fun entry => ⟨.allStations entry.1, entry.2⟩) =
      names.map fun name => get ("/hostapd/" ++ name ++ "/all_stations") := by
  have firsts := List.map_fst_zip (le_of_eq length.symm)
  conv_rhs => rw [← firsts]
  rw [requests, List.filterMap_map, List.map_map, ← List.filterMap_eq_map]
  rfl

/-- The ways to the presence: a topology answers for the stations and the ARP table as well. -/
inductive Collected (ifaces : Slice InterfaceConfig) (wanIface : String) :
    List (Exchange Query.Reply) → Presence → Prop where
  | topology {reply : Option TopoResponse} {topo : Map TopoPresence} (found : fetchTopologyPresence reply = some topo) :
      Collected ifaces wanIface [⟨.topology, reply⟩] (.topology topo)
  | merged {reply : Option TopoResponse} (found : fetchTopologyPresence reply = none)
      {replies : List (Option StationTable)} (length : replies.length = (stationNames ifaces).length)
      (arp : Option (Slice ArpEntry)) :
      Collected ifaces wanIface
        ([⟨.topology, reply⟩] ++
          ((stationNames ifaces).zip replies).map (fun entry => ⟨.allStations entry.1, entry.2⟩) ++ [⟨.arp, arp⟩])
        (.merged
          (((stationNames ifaces).zip replies).foldl
            (fun stations entry => (entry.2.getD ∅).entries.foldl (addStation entry.1) stations) ∅)
          ((arp.getD none).items.foldl (addArpEntry wanIface) ∅))

theorem collectPresence_path {ifaces : Slice InterfaceConfig} {wanIface : String} {presence : Presence}
    {answers : List (Exchange Query.Reply)} (path : Path (collectPresence ifaces wanIface) answers presence) :
    Collected ifaces wanIface answers presence := by
  obtain ⟨reply, rest, rfl, onward⟩ := path_ask path
  cases found : fetchTopologyPresence reply with
  | some topo =>
      simp only [found] at onward
      obtain ⟨rfl, rfl⟩ := path_pure onward
      exact .topology found
  | none =>
      simp only [found] at onward
      obtain ⟨lists, later, collected, rfl, stationsPath, last⟩ := path_bind onward
      obtain ⟨replies, length, rfl, rfl⟩ := collectStations_path stationsPath
      obtain ⟨arpAnswers, rest, arp, rfl, arpPath, finish⟩ := path_bind last
      obtain ⟨table, rfl, rfl⟩ := path_fetch arpPath
      obtain ⟨rfl, rfl⟩ := path_pure finish
      exact .merged found length table

theorem Collected.beside {ifaces : Slice InterfaceConfig} {wanIface : String} {presence : Presence}
    {answers : List (Exchange Query.Reply)} (collected : Collected ifaces wanIface answers presence) :
    ∀ answer ∈ answers, Beside answer := by
  cases collected with
  | topology found => simp [Beside]
  | merged found length arp =>
      simp only [List.forall_mem_append]
      refine ⟨⟨by simp [Beside], ?_⟩, by simp [Beside]⟩
      rintro answer member
      obtain ⟨entry, _, rfl⟩ := List.mem_map.mp member
      simp [Beside]

theorem Collected.asks {wanIface : String} {presence : Presence} {answers : List (Exchange Query.Reply)}
    {reads : Reads} (collected : Collected (reads.interfaces.getD none) wanIface answers presence)
    (gives : ∀ answer ∈ answers, Gives reads answer) : requests answers = presenceRequests reads := by
  cases collected with
  | @topology reply topo found =>
      have topology : reads.topology = reply := gives ⟨.topology, reply⟩ (by simp)
      simp [presenceRequests_of, topology, found, requests, Query.request]
  | @merged reply found replies length arp =>
      have topology : reads.topology = reply := gives ⟨.topology, reply⟩ (by simp)
      rw [requests_append, requests_append, requests_allStations length, presenceRequests_of, topology, found]
      rfl

/-- Readings of the topology, the stations and the ARP table make a way to the presence the
process model's. -/
theorem Collected.exists_reads {ifaces : Slice InterfaceConfig} {wanIface : String} {presence : Presence}
    {answers : List (Exchange Query.Reply)} (collected : Collected ifaces wanIface answers presence) :
    ∃ topology stations arp, ∀ reads : Reads, reads.topology = topology → reads.stations = stations →
      reads.arp = arp →
        presence = Plugin.collectPresence reads ifaces wanIface ∧ ∀ answer ∈ answers, Gives reads answer := by
  cases collected with
  | @topology reply topo found =>
      refine ⟨reply, fun _ _ => none, none, fun reads topology _ _ => ⟨?_, ?_⟩⟩
      · simp [Plugin.collectPresence, topology, found]
      · exact List.forall_mem_cons.mpr ⟨topology, List.forall_mem_nil _⟩
  | @merged reply found replies length table =>
      refine ⟨reply, fun n _ => (replies[n]?).getD none, table, fun reads topology stations arp => ⟨?_, ?_⟩⟩
      · simp only [Plugin.collectPresence, topology, found, Plugin.collectStations, Plugin.collectArp,
          Reads.fetchStations, Reads.fetchArp, stations, arp]
        rw [← zipIdx_replies length, List.foldl_map]
      · simp only [List.forall_mem_append]
        refine ⟨⟨by simpa [Gives] using topology, fun answer member => ?_⟩, by simpa [Gives] using arp⟩
        obtain ⟨entry, listed, rfl⟩ := List.mem_map.mp member
        obtain ⟨i, within, rfl⟩ := List.mem_iff_getElem.mp listed
        have answered : i < replies.length := by
          rw [List.length_zip] at within
          omega
        refine ⟨i, ?_⟩
        simp only [stations, List.getElem_zip, List.getElem?_eq_getElem answered, Option.getD_some]

/-! ## A refresh that has a device table, by its parts -/

structure Parts where
  deviceAnswers : List (Exchange Query.Reply)
  table : Map DeviceEntry
  interfaces : Option (Slice InterfaceConfig)
  presenceAnswers : List (Exchange Query.Reply)
  presence : Presence
  incoming : Option (Slice TrafficElement)
  outgoing : Option (Slice TrafficElement)
  addrs : Option (Slice IPAddr)
  uptime : UptimeInfo
  release : ReleaseInfo
  versions : Option (Map String)
  superd : String
  checkAnswers : List (Exchange Query.Reply)
  latest : String × VersionCheck

namespace Parts

def found (p : Parts) : Bool × String := scanInterfaces (p.interfaces.getD none)

def version (p : Parts) : String := if p.superd = "" then p.release.current else p.superd

def answers (p : Parts) : List (Exchange Query.Reply) :=
  p.deviceAnswers ++ [⟨.interfacesConfiguration, p.interfaces⟩] ++ p.presenceAnswers ++
    [⟨.traffic "incoming_traffic_wan", p.incoming⟩, ⟨.traffic "outgoing_traffic_wan", p.outgoing⟩,
      ⟨.ipAddr, p.addrs⟩, ⟨.uptime, p.uptime⟩, ⟨.release, p.release⟩, ⟨.version, p.versions⟩] ++
    p.checkAnswers

def gathered (p : Parts) (now : Time) (hostname : String) : Gathered where
  now := now
  devices := p.table
  guestEnabled := p.found.1
  wanIface := p.found.2
  presence := p.presence
  rxByIP := (sumTraffic (p.incoming.getD none)).1
  txByIP := (sumTraffic (p.outgoing.getD none)).1
  wanRxTotal := (sumTraffic (p.incoming.getD none)).2
  wanTxTotal := (sumTraffic (p.outgoing.getD none)).2
  wanIP := (wanAddress (p.addrs.getD none) p.found.2).1
  wanUp := (wanAddress (p.addrs.getD none) p.found.2).2
  uptime := p.uptime
  version := p.version
  latest := p.latest.1
  hostname := hostname

/-- Each part is a path of its own. -/
structure Along (p : Parts) (check : VersionCheck) : Prop where
  devices : Path fetchSPRDevices p.deviceAnswers (some p.table)
  presence : Path (collectPresence (p.interfaces.getD none) p.found.2) p.presenceAnswers p.presence
  superd : Path fetchVersion [⟨.version, p.versions⟩] p.superd
  latest : Path (latestAvailableVersion p.version check) p.checkAnswers p.latest

/-- The readings that the parts come to, with any hostname. -/
structure Read (p : Parts) (check : VersionCheck) (reads : Reads) : Prop where
  devices : reads.devices = some p.table
  interfaces : reads.interfaces = p.interfaces
  incoming : reads.incomingTraffic = p.incoming
  outgoing : reads.outgoingTraffic = p.outgoing
  addrs : reads.ipAddrs = p.addrs
  uptime : reads.uptime = p.uptime
  release : reads.release = p.release
  versions : reads.versions = p.versions
  version : resolveVersion reads = p.version
  presence : Plugin.collectPresence reads (p.interfaces.getD none) p.found.2 = p.presence
  presenceGiven : ∀ answer ∈ p.presenceAnswers, Gives reads answer
  latest : checkRelease reads check = p.latest
  checkGiven : GoesBy reads p.checkAnswers

end Parts

theorem gather_parts {now : Time} {check : VersionCheck} {answers : List (Exchange Query.Reply)}
    {result : Option (String → Gathered) × VersionCheck} (path : Path (gather now check) answers result) :
    (Path fetchSPRDevices answers none ∧ result = (none, check)) ∨
      ∃ p : Parts, p.Along check ∧ answers = p.answers ∧ result = (some (p.gathered now), p.latest.2) := by
  -- the path is taken apart request by request; what each was answered becomes a field
  obtain ⟨deviceAnswers, rest, devices, rfl, devicesPath, afterDevices⟩ := path_bind path
  cases devices with
  | none =>
      obtain ⟨rfl, rfl⟩ := path_pure afterDevices
      exact Or.inl ⟨(List.append_nil deviceAnswers).symm ▸ devicesPath, rfl⟩
  | some table =>
      obtain ⟨_, rest, ifaces, rfl, ifacesPath, afterIfaces⟩ := path_bind afterDevices
      obtain ⟨interfaces, rfl, rfl⟩ := path_fetch ifacesPath
      obtain ⟨presenceAnswers, rest, presence, rfl, presencePath, afterPresence⟩ := path_bind afterIfaces
      obtain ⟨_, rest, _, rfl, incomingPath, afterIncoming⟩ := path_bind afterPresence
      obtain ⟨incoming, rfl, rfl⟩ := path_fetch incomingPath
      obtain ⟨_, rest, _, rfl, outgoingPath, afterOutgoing⟩ := path_bind afterIncoming
      obtain ⟨outgoing, rfl, rfl⟩ := path_fetch outgoingPath
      obtain ⟨_, rest, _, rfl, addrsPath, afterAddrs⟩ := path_bind afterOutgoing
      obtain ⟨addrs, rfl, rfl⟩ := path_fetch addrsPath
      obtain ⟨uptime, rest, rfl, afterUptime⟩ := path_ask afterAddrs
      obtain ⟨release, rest, rfl, afterRelease⟩ := path_ask afterUptime
      obtain ⟨_, rest, superd, rfl, versionPath, afterVersion⟩ := path_bind afterRelease
      obtain ⟨versions, rfl, -⟩ := fetchVersion_path versionPath
      obtain ⟨checkAnswers, rest, latest, rfl, latestPath, afterLatest⟩ := path_bind afterVersion
      obtain ⟨rfl, rfl⟩ := path_pure afterLatest
      refine Or.inr ⟨⟨deviceAnswers, table, interfaces, presenceAnswers, presence, incoming, outgoing, addrs,
        uptime, release, versions, superd, checkAnswers, latest⟩,
        ⟨devicesPath, presencePath, versionPath, latestPath⟩, ?_, rfl⟩
      simp [Parts.answers]

/-- The hostname is asked for after the path, so any of them fits. -/
theorem Parts.Along.read {p : Parts} {check : VersionCheck} (along : p.Along check) :
    ∃ reads : Reads, ∀ hostname, p.Read check { reads with hostname := hostname } := by
  obtain ⟨topology, stations, arp, collected⟩ := (collectPresence_path along.presence).exists_reads
  obtain ⟨versions, same, superd⟩ := fetchVersion_path along.superd
  obtain rfl : p.versions = versions := eq_of_heq (Sigma.mk.inj (List.cons.inj same).1).2
  obtain ⟨asked, answered, tags, checked⟩ := (latestAvailableVersion_path along.latest).exists_reads
  let reads : Reads :=
    { devices := some p.table
      interfaces := p.interfaces
      topology := topology
      stations := stations
      arp := arp
      incomingTraffic := p.incoming
      outgoingTraffic := p.outgoing
      ipAddrs := p.addrs
      uptime := p.uptime
      release := p.release
      versions := p.versions
      releasesAvailable := tags
      releaseAsked := asked
      releaseAnswered := answered
      hostname := "" }
  refine ⟨reads, fun hostname => ?_⟩
  obtain ⟨presence, presenceGiven⟩ := collected { reads with hostname := hostname } rfl rfl rfl
  obtain ⟨latest, checkGiven⟩ := checked { reads with hostname := hostname } rfl rfl rfl
  have version : resolveVersion { reads with hostname := hostname } = p.version := by
    rw [resolveVersion, ← superd { reads with hostname := hostname } rfl]
    rfl
  exact
    { devices := rfl
      interfaces := rfl
      incoming := rfl
      outgoing := rfl
      addrs := rfl
      uptime := rfl
      release := rfl
      versions := rfl
      version := version
      presence := presence.symm
      presenceGiven := presenceGiven
      latest := by rw [latest, checkRelease, version]
      checkGiven := checkGiven }

/-- Before the release check a refresh does not look at the clock again. -/
theorem Parts.Along.beside {p : Parts} {check : VersionCheck} (along : p.Along check) :
    ∃ before, p.answers = before ++ p.checkAnswers ∧ ∀ answer ∈ before, Beside answer := by
  refine ⟨_, rfl, ?_⟩
  simp only [List.forall_mem_append]
  exact ⟨⟨⟨(fetchSPRDevices_path along.devices).2.1, by simp [Beside]⟩, (collectPresence_path along.presence).beside⟩,
    by simp [Beside]⟩

/-- The answers along a path decide which requests they are the answers to. -/
theorem Parts.Along.asks {p : Parts} {check : VersionCheck} (along : p.Along check) {reads : Reads}
    (goes : GoesBy reads p.answers) : requests p.answers = requestsOf reads check ∧ reads.devices = some p.table := by
  obtain ⟨before, split, beside⟩ := along.beside
  obtain ⟨versions, same, superd⟩ := fetchVersion_path along.superd
  obtain rfl : p.versions = versions := eq_of_heq (Sigma.mk.inj (List.cons.inj same).1).2
  obtain ⟨gives, clock⟩ := goes
  rw [split, clockRead_append beside] at clock
  simp only [answers, List.forall_mem_append, List.forall_mem_cons] at gives
  obtain ⟨⟨⟨⟨devicesGiven, interfaces, -⟩, presenceGiven⟩, -, -, -, -, release, read, -⟩, checkGiven⟩ := gives
  obtain ⟨deviceAsked, -, devices⟩ := fetchSPRDevices_path along.devices
  have readable := (devices reads).mp devicesGiven
  have version : resolveVersion reads = p.version := by
    rw [resolveVersion, ← superd reads read, show reads.release = p.release from release]
    rfl
  have collected := collectPresence_path along.presence
  rw [← show reads.interfaces = p.interfaces from interfaces] at collected
  have presenceAsked := collected.asks presenceGiven
  have checkAsked := (version ▸ latestAvailableVersion_path along.latest).asks ⟨checkGiven, clock⟩
  refine ⟨?_, readable⟩
  simp only [answers, requests_append, requests_cons, deviceAsked, presenceAsked, checkAsked]
  simp [requestsOf, readable, Query.request, requests]

theorem Parts.Read.goesBy {p : Parts} {check : VersionCheck} {reads : Reads} (read : p.Read check reads)
    (along : p.Along check) : GoesBy reads p.answers where
  gives := by
    have devicesGiven := ((fetchSPRDevices_path along.devices).2.2 reads).mpr read.devices
    simp only [answers, List.forall_mem_append, List.forall_mem_cons]
    exact ⟨⟨⟨⟨devicesGiven, read.interfaces, List.forall_mem_nil _⟩, read.presenceGiven⟩,
      read.incoming, read.outgoing, read.addrs, read.uptime, read.release,
      read.versions, List.forall_mem_nil _⟩, read.checkGiven.gives⟩
  clock := by
    obtain ⟨before, split, beside⟩ := along.beside
    rw [split, clockRead_append beside]
    exact read.checkGiven.clock

theorem Parts.Read.gather {p : Parts} {check : VersionCheck} {reads : Reads} (read : p.Read check reads)
    (now : Time) : Plugin.gather now reads check = (some (p.gathered now reads.hostname), p.latest.2) := by
  obtain ⟨devices, interfaces, incoming, outgoing, addrs, uptime, -, -, version, presence, -, latest, -⟩ := read
  have whole : Plugin.gather now reads check =
      (some (gatherFrom now p.table reads (checkRelease reads check).1), (checkRelease reads check).2) := by
    rw [Plugin.gather, devices]
  rw [whole, latest]
  simp [gatherFrom, gathered, found, Plugin.fetchTrafficSet, Reads.fetchIPAddrs, interfaces, incoming, outgoing,
    addrs, uptime, version, ← presence]

/-- A refresh leaves the check behind that the registry's answer makes, if it gave one. -/
theorem gather_check {now : Time} {check : VersionCheck} {answers : List (Exchange Query.Reply)}
    {result : Option (String → Gathered) × VersionCheck} (path : Path (gather now check) answers result) :
    result.2 = (registryCheck answers).getD check := by
  obtain ⟨devices, rfl⟩ | ⟨p, along, rfl, rfl⟩ := gather_parts path
  · have beside := (fetchSPRDevices_path devices).2.1
    have silent := registryCheck_append beside []
    rw [List.append_nil] at silent
    rw [silent]
    rfl
  · obtain ⟨before, split, beside⟩ := along.beside
    rw [split, registryCheck_append beside]
    exact (latestAvailableVersion_path along.latest).check_eq

/-- Along every path the requests yield what the process model makes of some readings at
once. -/
theorem gather_path {now : Time} {check : VersionCheck} {answers : List (Exchange Query.Reply)}
    {result : Option (String → Gathered) × VersionCheck} (path : Path (gather now check) answers result) :
    ∃ reads : Reads, reads.devices.isSome = result.1.isSome ∧
      ∀ hostname, GoesBy { reads with hostname := hostname } answers ∧
        Plugin.gather now { reads with hostname := hostname } check =
          (result.1.map fun gathered => gathered hostname, result.2) := by
  obtain ⟨devices, rfl⟩ | ⟨p, along, rfl, rfl⟩ := gather_parts path
  · obtain ⟨-, beside, given⟩ := fetchSPRDevices_path devices
    have unread := clockRead_append beside []
    rw [List.append_nil] at unread
    exact ⟨{ tableOnly ∅ with devices := none }, rfl,
      fun hostname => ⟨⟨(given _).mpr rfl, by simp [unread]⟩, rfl⟩⟩
  · obtain ⟨reads, fits⟩ := along.read
    refine ⟨reads, ?_, fun hostname => ⟨(fits hostname).goesBy along, (fits hostname).gather now⟩⟩
    rw [show reads.devices = some p.table from (fits reads.hostname).devices]
    rfl

/-- Whatever readings the answers along a path are, the requests are those that they call for. -/
theorem gather_asks {now : Time} {check : VersionCheck} {answers : List (Exchange Query.Reply)}
    {result : Option (String → Gathered) × VersionCheck} (path : Path (gather now check) answers result)
    {reads : Reads} (goes : GoesBy reads answers) :
    requests answers = requestsOf reads check ∧ reads.devices.isSome = result.1.isSome := by
  obtain ⟨devices, rfl⟩ | ⟨p, along, rfl, rfl⟩ := gather_parts path
  · obtain ⟨asked, -, given⟩ := fetchSPRDevices_path devices
    have missing := (given reads).mp goes.gives
    exact ⟨by rw [asked, requestsOf, missing], by rw [missing]; rfl⟩
  · obtain ⟨asked, readable⟩ := along.asks goes
    exact ⟨asked, by rw [readable]; rfl⟩

end SprHomeAssistant.Plugin.Requests

import SprHomeAssistant.Integration.Effects
import SprHomeAssistant.Plugin.Config
import SprHomeAssistant.Plugin.State

/-! The identity of a router from its configuration to the entries of Home Assistant.

The plugin names itself by its RouterID in two documents. The flows give that id to the
entries they create and look entries up by it, also when a router has come to a new URL.
-/

set_option autoImplicit false

namespace SprHomeAssistant.System
open Go Plugin Integration Library.Runs

/-! ## The documents -/

/-- A plugin that has come through `loadConfig`. -/
structure RunningPlugin where
  config : Plugin.Config
  named : config.routerID ≠ ""

def RunningPlugin.loaded {Bytes : Type} (codec : Codec Bytes) (host : Host Bytes) (start : Start) : RunningPlugin :=
  ⟨(loadConfig codec host start).gConfig, loadConfig_named codec host start⟩

/-- `GET /ha/v1/probe`. -/
def handleProbe (config : Plugin.Config) (s : StateStore) : Json :=
  .obj [("api", .int 1), ("hostname", .str s.get.router.hostname), ("id", .str config.routerID),
    ("product", .str "spr"), ("version", .str s.get.router.version)]

/-- `GET /static/discovery.json`. -/
def handleStaticDiscovery (config : Plugin.Config) (s : StateStore) : Json :=
  let hostname := s.get.router.hostname
  .obj [("api", .int 1), ("id", .str config.routerID), ("name", .str (if hostname = "" then "SPR" else hostname)),
    ("product", .str "spr")]

theorem handleProbe_id (plugin : RunningPlugin) (s : StateStore) :
    probeId (handleProbe plugin.config s) = .ok (.str plugin.config.routerID) := by
  have given : (handleProbe plugin.config s).get "id" = .ok (.str plugin.config.routerID) := rfl
  rw [probeId, given]
  exact congrArg Except.ok (if_pos (bne_iff_ne.mpr plugin.named))

theorem handleStaticDiscovery_id (config : Plugin.Config) (s : StateStore) :
    rawField (handleStaticDiscovery config s) "id" = .str config.routerID := rfl

/-! ## The network -/

/-- The plugin behind a base URL, if there is one. Several URLs may lead to one router. -/
abbrev Network := String → Option RunningPlugin

/-- The entry or flow with this id and URL is about the router that the URL leads to. -/
def AtRouter (network : Network) (uniqueId : Option Json) (url : String) : Prop :=
  ∃ plugin, network (rstripSlash url) = some plugin ∧ uniqueId = some (.str plugin.config.routerID)

/-- Whatever a probe of the URL yields is the document of the router there. -/
def Probes (network : Network) (url : String) (reply : Reply) : Prop :=
  ∀ document, SprApiClient.get reply = .ok document →
    ∃ plugin s, network (rstripSlash url) = some plugin ∧ document = handleProbe plugin.config s

def Discovers (network : Network) (url : String) (reply : Reply) : Prop :=
  ∀ document, fetchDiscovery reply = .ok document →
    ∃ plugin s, network (rstripSlash url) = some plugin ∧ document = handleStaticDiscovery plugin.config s

/-- The routers answer for themselves, and the URL in the form of a discovered router is
left at that router. -/
def Honest (network : Network) (h : Hub) : Move → Prop
  | .user _ (some (input, replies)) => Probes network (normalizeUrl input.url) replies.probe
  | .zeroconf _ host reply => Discovers network (advertisedUrl host) reply
  | .discoveryConfirm flow (some (input, _)) =>
      ∀ f url, h.flows[flow]? = some (some f) → f.discoveredUrl = some url →
        network (rstripSlash (normalizeUrl input.url)) = network (rstripSlash url)
  | _ => True

/-- The integration accepts the documents that the plugin serves. -/
theorem handleProbe_accepted (text : String) (config : Plugin.Config) (s : StateStore) :
    SprApiClient.get (jsonReply text (handleProbe config s)) = .ok (handleProbe config s) := rfl

theorem handleStaticDiscovery_accepted (text : String) (config : Plugin.Config) (s : StateStore) :
    fetchDiscovery (jsonReply text (handleStaticDiscovery config s)) = .ok (handleStaticDiscovery config s) := rfl

theorem probes_served {network : Network} {url : String} {plugin : RunningPlugin}
    (there : network (rstripSlash url) = some plugin) (text : String) (s : StateStore) :
    Probes network url (jsonReply text (handleProbe plugin.config s)) := by
  intro document answered
  rw [handleProbe_accepted] at answered
  exact ⟨plugin, s, there, (Except.ok.inj answered).symm⟩

theorem discovers_served {network : Network} {url : String} {plugin : RunningPlugin}
    (there : network (rstripSlash url) = some plugin) (text : String) (s : StateStore) :
    Discovers network url (jsonReply text (handleStaticDiscovery plugin.config s)) := by
  intro document answered
  rw [handleStaticDiscovery_accepted] at answered
  exact ⟨plugin, s, there, (Except.ok.inj answered).symm⟩

/-! ## The steps -/

def FlowAtRouter (network : Network) (f : Flow) : Prop :=
  ∀ url, f.discoveredUrl = some url → AtRouter network f.uniqueId url

def EntriesAtRouters (network : Network) (entries : List ConfigEntry) : Prop :=
  ∀ entry ∈ entries, AtRouter network entry.uniqueId entry.data.url

/-- What a step leaves is at its routers: the entries, with a new one, and the flow. -/
structure Places (network : Network) (r : StepResult) : Prop where
  entries : EntriesAtRouters network (r.entries ++ r.creation.toList.map Prod.fst)
  flow : ∀ f, r.remains = some f → FlowAtRouter network f

theorem remains_eq {r : StepResult} {f : Flow} (remains : r.remains = some f) : f = r.flow := by
  unfold StepResult.remains at remains
  split at remains
  · cases remains
  · cases remains
  · exact (Option.some.inj remains).symm

theorem accepted_get {v : Validation} {probe : Json} (accepted : v.accepted = some probe) :
    SprApiClient.get v.replies.probe = .ok probe := by
  have outcome := accepted_eq_some.mp accepted
  unfold Validation.outcome at outcome
  cases first : SprApiClient.get v.replies.probe with
  | error err =>
      rw [first] at outcome
      cases err <;> cases outcome
  | ok document =>
      cases second : SprApiClient.get v.replies.state with
      | error err =>
          rw [first, second] at outcome
          cases err <;> cases outcome
      | ok state =>
          rw [first, second] at outcome
          cases outcome
          rfl

theorem asyncStepReauthConfirm_flow (flow : Flow) (entries : List ConfigEntry) (input : Option (String × Replies)) :
    (asyncStepReauthConfirm flow entries input).flow = flow := by
  unfold asyncStepReauthConfirm
  split
  next => rfl
  next i entry found =>
    cases input with
    | none => rfl
    | some typed =>
        obtain ⟨-, -, same⟩ | ⟨probe, -, result⟩ := afterValidation_cases
          ⟨entry.data.url, typed.1, entry.data.verify, typed.2⟩ flow entries "reauth_confirm"
          fun _ => .make (.ok (.abort "reauth_successful")) flow (entries.modify i (.setToken typed.1))
        · exact same
        · exact congrArg StepResult.flow result

/-- A step that ends its flow and creates nothing. -/
theorem places_of_aborted {network : Network} {reason : String} {v : Validation} {flow : Flow}
    {entries : List ConfigEntry} (places : EntriesAtRouters network entries) :
    Places network ((StepResult.make (.ok (.abort reason)) flow entries).after v) := by
  refine ⟨?_, fun f remains => by cases remains⟩
  have nothing : ((StepResult.make (.ok (.abort reason)) flow entries).after v).creation = none := rfl
  rw [nothing, Option.toList_none, List.map_nil, List.append_nil]
  exact places

section
variable {network : Network} {flow : Flow} {entries : List ConfigEntry}
  (places : EntriesAtRouters network entries) (about : FlowAtRouter network flow)
include places about

theorem places_of_quiet {r : StepResult} (quiet : r.Quiet entries) (same : r.flow = flow) :
    Places network r := by
  obtain ⟨nothing, kept⟩ := quiet
  refine ⟨by simpa [nothing, kept] using places, fun f remains => ?_⟩
  rw [remains_eq remains, same]
  exact about

omit about in
/-- A new entry ends its flow. -/
theorem places_of_created {title : Json} {v : Validation} {flow : Flow}
    (here : AtRouter network flow.uniqueId v.url) :
    Places network ((StepResult.make (.ok (.createEntry title v.data)) flow entries).after v) := by
  refine ⟨?_, fun f remains => by cases remains⟩
  exact List.forall_mem_append.mpr ⟨places, List.forall_mem_cons.mpr ⟨here, List.forall_mem_nil _⟩⟩

omit about in
theorem moved_atRouter {id : Json} {i : Nat} {url : String} (found : findEntry entries id = some i)
    (here : AtRouter network (some id) url) : EntriesAtRouters network (entries.modify i (.setUrl url)) := by
  intro entry member
  rcases mem_modify member with old | ⟨before, held, rfl⟩
  · exact places entry old
  · have named : before.uniqueId = some id := by
      have first := List.of_findIdx?_eq_some found
      rw [held] at first
      exact of_decide_eq_true first
    rw [← named] at here
    exact here

theorem asyncStepUser_places {input : UserInput} {replies : Replies}
    (probes : Probes network (normalizeUrl input.url) replies.probe) :
    Places network (asyncStepUser flow entries (some (input, replies))) := by
  generalize shape : (⟨normalizeUrl input.url, input.token, input.verifySsl, replies⟩ : Validation) = v
  have url : v.url = normalizeUrl input.url := by rw [← shape]
  simp only [asyncStepUser, shape]
  obtain ⟨-, quiet, same⟩ | ⟨probe, accepted, result⟩ :=
    afterValidation_cases v flow entries "user" (createFromProbe v flow entries)
  · exact places_of_quiet places about quiet same
  · rw [result]
    have answered := accepted_get accepted
    rw [← shape] at answered
    obtain ⟨plugin, s, there, rfl⟩ := probes probe answered
    have named := handleProbe_id plugin s
    have real : (Json.str plugin.config.routerID).truthy = true := by simp [Json.truthy, plugin.named]
    have here : AtRouter network (some (.str plugin.config.routerID)) v.url := ⟨plugin, by rw [url, there], rfl⟩
    cases found : findEntry entries (.str plugin.config.routerID) with
    | none =>
        rw [createFromProbe_new v flow entries named real found]
        exact places_of_created places here
    | some i =>
        rw [createFromProbe_known v flow entries named real found]
        exact places_of_aborted (moved_atRouter places found here)

theorem asyncStepDiscoveryConfirm_places {input : UserInput} {replies : Replies}
    (left : ∀ url, flow.discoveredUrl = some url →
      network (rstripSlash (normalizeUrl input.url)) = network (rstripSlash url)) :
    Places network (asyncStepDiscoveryConfirm flow entries (some (input, replies))) := by
  unfold asyncStepDiscoveryConfirm
  generalize shape : (⟨normalizeUrl input.url, input.token, input.verifySsl, replies⟩ : Validation) = v
  have url : v.url = normalizeUrl input.url := by rw [← shape]
  cases discovered : flow.discoveredUrl with
  | none => exact places_of_quiet places about ⟨rfl, rfl⟩ rfl
  | some known =>
      simp only [shape]
      obtain ⟨-, quiet, same⟩ | ⟨probe, accepted, result⟩ :=
        afterValidation_cases v flow entries "discovery_confirm" (createDiscovered v flow entries)
      · exact places_of_quiet places about quiet same
      · rw [result]
        unfold createDiscovered
        cases given : probe.get "hostname" with
        | error err => exact places_of_quiet places about ⟨rfl, rfl⟩ rfl
        | ok hostname =>
            obtain ⟨plugin, there, named⟩ := about known discovered
            exact places_of_created places ⟨plugin, by rw [url, left known discovered, there], named⟩

theorem asyncStepZeroconf_places {host : String} {reply : Reply}
    (discovers : Discovers network (advertisedUrl host) reply) :
    Places network (asyncStepZeroconf flow entries host reply) := by
  have quiet := asyncStepZeroconf_quiet flow entries host reply
  refine ⟨by simpa [quiet.1, quiet.2] using places, ?_⟩
  unfold asyncStepZeroconf
  split
  · intro f remains
    cases remains
  · intro f remains
    cases remains
  · intro f remains
    cases remains
    exact about
  next info answered =>
    -- the id that the flow takes is the one in the plugin's own document
    obtain ⟨plugin, s, there, rfl⟩ := discovers info answered
    have real : (Json.str plugin.config.routerID).truthy = true := by simp [Json.truthy, plugin.named]
    unfold presentRouter
    rw [handleStaticDiscovery_id]
    simp only [real, Bool.not_true, Bool.false_eq_true, if_false]
    cases findEntry entries (.str plugin.config.routerID) with
    | some i =>
        intro f remains
        cases remains
    | none =>
        intro f remains url discovered
        cases remains
        cases discovered
        exact ⟨plugin, there, rfl⟩

theorem asyncStepReauthConfirm_places (input : Option (String × Replies)) :
    Places network (asyncStepReauthConfirm flow entries input) := by
  have same := asyncStepReauthConfirm_flow flow entries input
  obtain quiet | ⟨i, entry, token, replies, probe, -, -, -, nothing, changed⟩ :=
    asyncStepReauthConfirm_cases flow entries input
  · exact places_of_quiet places about quiet same
  · refine ⟨?_, fun f remains => by rw [remains_eq remains, same]; exact about⟩
    rw [nothing, changed, Option.toList_none, List.map_nil, List.append_nil]
    intro entry member
    rcases mem_modify member with old | ⟨before, held, rfl⟩
    · exact places entry old
    · exact places before (List.mem_of_getElem? held)

end

/-! ## The runs -/

structure Hub.AtRouters (network : Network) (h : Hub) : Prop where
  entries : EntriesAtRouters network h.entries
  flows : ∀ f, some f ∈ h.flows → FlowAtRouter network f

variable {network : Network} {h : Hub}

theorem onFlow_atRouters (located : Hub.AtRouters network h) {flow : Nat} {submitted : List String}
    {call : Flow → List ConfigEntry → StepResult}
    (places : ∀ f, h.flows[flow]? = some (some f) → FlowAtRouter network f → Places network (call f h.entries)) :
    Hub.AtRouters network (h.onFlow flow submitted call) := by
  obtain same | ⟨f, progress, after⟩ := onFlow_cases h flow submitted call
  · rw [same]
    exact located
  · have placed := places f progress (located.flows f (List.mem_of_getElem? progress))
    rw [after]
    refine ⟨placed.entries, fun g member => ?_⟩
    rcases List.mem_or_eq_of_mem_set member with old | remains
    · exact located.flows g old
    · exact placed.flow g remains.symm

theorem atRouters_of_frames (located : Hub.AtRouters network h) {after : Hub}
    (frames : h.Frames after ∧ after.flows = h.flows) : Hub.AtRouters network after where
  entries := by
    rw [frames.1.entries]
    exact located.entries
  flows := by
    rw [frames.2]
    exact located.flows

theorem step_atRouters (located : Hub.AtRouters network h) {move : Move} (honest : Honest network h move) :
    Hub.AtRouters network (h.step move) := by
  cases move with
  | startFlow reauthEntry =>
      refine ⟨located.entries, fun f member => ?_⟩
      rcases List.mem_append.mp member with old | new
      · exact located.flows f old
      · obtain rfl := Option.some.inj (List.mem_singleton.mp new)
        intro url discovered
        cases discovered
  -- the other acts change no unique id and no URL
  | poll client => exact atRouters_of_frames located (onClient_frames h client _)
  | wake client mac => exact atRouters_of_frames located (onClient_frames h client _)
  | listen client => exact atRouters_of_frames located (onClient_frames h client _)
  | setupEntry entry reply => exact atRouters_of_frames located (setupEntry_frames h entry reply)
  | user flow input =>
      have step : h.step (.user flow input) =
          h.onFlow flow (typedUrls input) fun f entries => asyncStepUser f entries input := rfl
      rw [step]
      refine onFlow_atRouters located fun f _ about => ?_
      cases input with
      | none => exact places_of_quiet located.entries about ⟨rfl, rfl⟩ rfl
      | some typed => exact asyncStepUser_places located.entries about honest
  | zeroconf flow host reply =>
      have step : h.step (.zeroconf flow host reply) =
          h.onFlow flow [] fun f entries => asyncStepZeroconf f entries host reply := rfl
      rw [step]
      exact onFlow_atRouters located fun f _ about => asyncStepZeroconf_places located.entries about honest
  | discoveryConfirm flow input =>
      have step : h.step (.discoveryConfirm flow input) =
          h.onFlow flow (typedUrls input) fun f entries => asyncStepDiscoveryConfirm f entries input := rfl
      rw [step]
      refine onFlow_atRouters located fun f progress about => ?_
      cases input with
      | none =>
          unfold asyncStepDiscoveryConfirm
          cases f.discoveredUrl with
          | none => exact places_of_quiet located.entries about ⟨rfl, rfl⟩ rfl
          | some url => exact places_of_quiet located.entries about ⟨rfl, rfl⟩ rfl
      | some typed =>
          exact asyncStepDiscoveryConfirm_places located.entries about fun url => honest f url progress
  | reauthConfirm flow input =>
      have step : h.step (.reauthConfirm flow input) =
          h.onFlow flow [] fun f entries => asyncStepReauthConfirm f entries input := rfl
      rw [step]
      exact onFlow_atRouters located fun f _ about => asyncStepReauthConfirm_places located.entries about input

/-- While the routers answer for themselves, every entry has as its unique id the RouterID of
the router that its URL leads to, also after it was moved to another URL. -/
theorem run_atRouters (network : Network) (moves : List Move)
    (honest : ∀ t ∈ transitions Hub.step (.start []) moves, Honest network t.before t.action) :
    EntriesAtRouters network (run Hub.step (.start []) moves).entries :=
  (invariant_of_allowed (Hub.AtRouters network) (Honest network) (fun _ _ located honest => step_atRouters located honest)
    ⟨by simp [EntriesAtRouters, Hub.start], by simp [Hub.start]⟩ honest).1.entries

/-- A router at one address, by its name or by its number. -/
def oneRouter : RunningPlugin := ⟨⟨"", "AAECAwQFBgcICQoL", 10, false⟩, by decide⟩

def homeNetwork : Network := fun base =>
  if base = "https://192.168.2.1" ∨ base = "https://spr.local" then some oneRouter else none

def probeReply : Reply := jsonReply "" (handleProbe oneRouter.config .initial)

/-- It is discovered and confirmed, and later added again by its name. -/
def addedByName : List Move :=
  [.startFlow none, .zeroconf 0 "192.168.2.1" (jsonReply "" (handleStaticDiscovery oneRouter.config .initial)),
    .discoveryConfirm 0 (some (⟨"https://192.168.2.1/", "token", false⟩, ⟨probeReply, probeReply⟩)),
    .startFlow none, .user 1 (some (⟨"spr.local", "token", false⟩, ⟨probeReply, probeReply⟩))]

theorem addedByName_honest :
    ∀ t ∈ transitions Hub.step (.start []) addedByName, Honest homeNetwork t.before t.action := by
  intro t member
  simp only [addedByName, transitions, List.mem_cons, List.not_mem_nil, or_false] at member
  rcases member with rfl | rfl | rfl | rfl | rfl
  · trivial
  · exact discovers_served (if_pos (Or.inl (by decide +kernel))) "" .initial
  · intro f url progress discovered
    have known : (run Hub.step (.start []) (addedByName.take 2)).flows[0]?.join.bind Flow.discoveredUrl =
        some "https://192.168.2.1" := by decide +kernel
    have progress : (run Hub.step (.start []) (addedByName.take 2)).flows[0]? = some (some f) := progress
    rw [progress, Option.join_some, Option.bind_some, discovered] at known
    obtain rfl := Option.some.inj known
    have same : rstripSlash (normalizeUrl "https://192.168.2.1/") = rstripSlash "https://192.168.2.1" := by
      decide +kernel
    exact congrArg homeNetwork same
  · trivial
  · exact probes_served (if_pos (Or.inr (by decide +kernel))) "" .initial

theorem addedByName_atRouters :
    EntriesAtRouters homeNetwork (run Hub.step (.start []) addedByName).entries :=
  run_atRouters homeNetwork addedByName addedByName_honest

end SprHomeAssistant.System

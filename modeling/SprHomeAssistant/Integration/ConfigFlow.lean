import SprHomeAssistant.Library.Runs
import SprHomeAssistant.Integration.Coordinator

/-! The config flow: its steps, and the entries and requests that come of them.

A step of the source is a function of the flow's fields, the entries, what the user
typed and what the hosts replied. Any number of flows run side by side and their steps
come in any order; a flow that is dismissed is one that takes no further step. Of Home
Assistant's own checks, only the look-up of a unique id among the entries is here.
-/

set_option autoImplicit false

namespace SprHomeAssistant.Integration
open Library.Runs

def normalizeUrl (url : String) : String :=
  let url := rstripSlash (strip url)
  if startsWith url "http://" || startsWith url "https://" then url else "https://" ++ url

/-! ## Entries and flows -/

/-- `entry.data`. Entries made by other means may lack `verify_ssl`. -/
structure EntryData where
  url : String
  token : String
  verifySsl : Option Bool
  deriving DecidableEq

def defaultVerifySsl : Bool := false

/-- `data.get(CONF_VERIFY_SSL, DEFAULT_VERIFY_SSL)`. -/
def EntryData.verify (data : EntryData) : Bool := data.verifySsl.getD defaultVerifySsl

structure ConfigEntry where
  uniqueId : Option Json
  title : Json
  data : EntryData

/-- The fields of a flow object, and the entry its context names when it was started to
replace a token. -/
structure Flow where
  uniqueId : Option Json
  discoveredUrl : Option String
  discoveredName : Json
  reauthEntry : Option Nat

def Flow.start (reauthEntry : Option Nat) : Flow := ⟨none, none, .str "SPR", reauthEntry⟩

structure UserInput where
  url : String
  token : String
  verifySsl : Bool

structure Replies where
  probe : Reply
  state : Reply

/-- The replies of a router that accepts the token and gives an id. -/
def routerReplies (id : String) : Replies where
  probe := jsonReply ("\x7b\"id\":\"" ++ id ++ "\"\x7d") (.obj [("id", .str id)])
  state := jsonReply "\x7b\x7d" (.obj [])

inductive FlowResult where
  | form (stepId : String) (errors : List (String × String))
  | abort (reason : String)
  | createEntry (title : Json) (data : EntryData)

/-! ## Validation -/

/-- A call of `_async_validate` and the replies it got. -/
structure Validation where
  url : String
  token : String
  verifySsl : Bool
  replies : Replies

def Validation.api (v : Validation) : SprApiClient := .make v.verifySsl v.url v.token

def Validation.requests (v : Validation) : List Request :=
  match SprApiClient.get v.replies.probe with
  | .error _ => [v.api.probeRequest]
  | .ok _ => [v.api.probeRequest, v.api.stateRequest]

def Validation.outcome (v : Validation) : Except PyError (List (String × String) × Json) :=
  let read := do
    let probe ← SprApiClient.get v.replies.probe
    let _ ← SprApiClient.get v.replies.state
    .ok probe
  -- the handler of authentication errors comes first, as they are API errors too
  match read with
  | .ok probe => .ok ([], probe)
  | .error (.sprAuthError _) => .ok ([("base", "invalid_auth")], .null)
  | .error (.sprApiError _) => .ok ([("base", "cannot_connect")], .null)
  | .error err => .error err

def Validation.triple (v : Validation) : String × String × Bool := (v.url, v.token, v.verifySsl)

def Validation.data (v : Validation) : EntryData := ⟨v.url, v.token, some v.verifySsl⟩

/-- The probe of a validation without errors. -/
def Validation.accepted (v : Validation) : Option Json :=
  match v.outcome with
  | .ok ([], probe) => some probe
  | _ => none

/-! ## The steps -/

/-- What a step returns or raises, and what it leaves. -/
structure StepResult where
  outcome : Except PyError FlowResult
  flow : Flow
  entries : List ConfigEntry
  validation : Option Validation
  requests : List Request

def StepResult.make (outcome : Except PyError FlowResult) (flow : Flow) (entries : List ConfigEntry) :
    StepResult :=
  ⟨outcome, flow, entries, none, []⟩

def StepResult.after (r : StepResult) (v : Validation) : StepResult :=
  { r with validation := some v, requests := v.requests }

def afterValidation (v : Validation) (flow : Flow) (entries : List ConfigEntry) (stepId : String)
    (next : Json → StepResult) : StepResult :=
  let result : StepResult := match v.outcome with
    | .error err => .make (.error err) flow entries
    | .ok ([], probe) => next probe
    | .ok (errors, _) => .make (.ok (.form stepId errors)) flow entries
  result.after v

def probeId (probe : Json) : Except PyError Json := do
  let id ← probe.get "id"
  .ok (id.orElse (.str ""))

/-- The entry that has a flow's unique id. Ids that are no strings are compared as documents. -/
def findEntry (entries : List ConfigEntry) (uniqueId : Json) : Option Nat :=
  entries.findIdx? fun entry => entry.uniqueId = some uniqueId

def ConfigEntry.setUrl (url : String) (entry : ConfigEntry) : ConfigEntry :=
  { entry with data.url := url }

def ConfigEntry.setToken (token : String) (entry : ConfigEntry) : ConfigEntry :=
  { entry with data.token := token }

/-- `async_step_user` once the probe is there. -/
def createFromProbe (v : Validation) (flow : Flow) (entries : List ConfigEntry) (probe : Json) : StepResult :=
  match probeId probe with
  | .error err => .make (.error err) flow entries
  | .ok routerId =>
      let title := (rawField probe "hostname").orElse (.str "SPR")
      if routerId.truthy then
        let flow := { flow with uniqueId := some routerId }
        match findEntry entries routerId with
        -- only the URL is in `updates`: the entry keeps its token and its verify_ssl
        | some i => .make (.ok (.abort "already_configured")) flow (entries.modify i (.setUrl v.url))
        | none => .make (.ok (.createEntry title v.data)) flow entries
      else .make (.ok (.createEntry title v.data)) flow entries

def asyncStepUser (flow : Flow) (entries : List ConfigEntry) (input : Option (UserInput × Replies)) :
    StepResult :=
  match input with
  | none => .make (.ok (.form "user" [])) flow entries
  | some (input, replies) =>
      let v : Validation := ⟨normalizeUrl input.url, input.token, input.verifySsl, replies⟩
      afterValidation v flow entries "user" (createFromProbe v flow entries)

/-- `async_step_discovery_confirm` once the probe is there. -/
def createDiscovered (v : Validation) (flow : Flow) (entries : List ConfigEntry) (probe : Json) :
    StepResult :=
  match probe.get "hostname" with
  | .error err => .make (.error err) flow entries
  | .ok hostname =>
      -- the flow keeps its id, whatever the probe calls the router
      .make (.ok (.createEntry (hostname.orElse flow.discoveredName) v.data)) flow entries

def asyncStepDiscoveryConfirm (flow : Flow) (entries : List ConfigEntry)
    (input : Option (UserInput × Replies)) : StepResult :=
  match flow.discoveredUrl, input with
  | none, _ => .make (.error .assertionError) flow entries
  | some _, none => .make (.ok (.form "discovery_confirm" [])) flow entries
  | some _, some (input, replies) =>
      let v : Validation := ⟨normalizeUrl input.url, input.token, input.verifySsl, replies⟩
      afterValidation v flow entries "discovery_confirm" (createDiscovered v flow entries)

/-- The URL of an advertised host, with brackets around a bare IPv6 address. -/
def advertisedUrl (host : String) : String :=
  let host := if host.toList.contains ':' && !startsWith host "[" then "[" ++ host ++ "]" else host
  "https://" ++ host

/-- `async_step_zeroconf` once the discovery document is there. -/
def presentRouter (flow : Flow) (entries : List ConfigEntry) (url : String) (info : Json) : StepResult :=
  let routerId := rawField info "id"
  if !routerId.truthy then .make (.ok (.abort "cannot_connect")) flow entries
  else
    let flow := { flow with uniqueId := some routerId }
    match findEntry entries routerId with
    -- without `updates` the entry stays as it is
    | some _ => .make (.ok (.abort "already_configured")) flow entries
    | none =>
        let flow := { flow with
          discoveredUrl := some url
          discoveredName := (rawField info "name").orElse (.str "SPR") }
        asyncStepDiscoveryConfirm flow entries none

def asyncStepZeroconf (flow : Flow) (entries : List ConfigEntry) (host : String) (reply : Reply) :
    StepResult :=
  let url := advertisedUrl host
  let result : StepResult := match fetchDiscovery reply with
    | .error (.sprApiError _) | .error (.sprAuthError _) => .make (.ok (.abort "cannot_connect")) flow entries
    | .error err => .make (.error err) flow entries
    | .ok info => presentRouter flow entries url info
  { result with requests := [discoveryRequest url] }

/-- `async_step_reauth_confirm`; `async_step_reauth` is its call without input. -/
def asyncStepReauthConfirm (flow : Flow) (entries : List ConfigEntry) (input : Option (String × Replies)) :
    StepResult :=
  match flow.reauthEntry.bind fun i => entries[i]?.map fun entry => (i, entry) with
  | none => .make (.error .unknownEntry) flow entries
  | some (i, entry) =>
      match input with
      | none => .make (.ok (.form "reauth_confirm" [])) flow entries
      | some (token, replies) =>
          let v : Validation := ⟨entry.data.url, token, entry.data.verify, replies⟩
          afterValidation v flow entries "reauth_confirm" fun _ =>
            .make (.ok (.abort "reauth_successful")) flow (entries.modify i (.setToken token))

/-! ## The whole integration -/

/-- An entry at its creation: the unique id of its flow and the id that the probe gave. -/
structure Creation where
  uniqueId : Option Json
  probedId : Json
  data : EntryData

/-- What was tried, created, typed and sent. No step reads it. -/
structure Ledger where
  validated : List (String × String × Bool)
  created : List Creation
  /-- The URLs of the user and discovery forms, as typed. -/
  submitted : List String
  requests : List Request

/-- Entries and flows are named by their position; a finished flow is `none`. A client is
that of a loaded entry, or of one that was loaded and makes no more requests. -/
structure Hub where
  entries : List ConfigEntry
  flows : List (Option Flow)
  clients : List SprApiClient
  ledger : Ledger

def Hub.start (entries : List ConfigEntry) : Hub := ⟨entries, [], [], ⟨[], [], [], []⟩⟩

inductive Move where
  | startFlow (reauthEntry : Option Nat)
  | user (flow : Nat) (input : Option (UserInput × Replies))
  | zeroconf (flow : Nat) (host : String) (reply : Reply)
  | discoveryConfirm (flow : Nat) (input : Option (UserInput × Replies))
  | reauthConfirm (flow : Nat) (input : Option (String × Replies))
  | setupEntry (entry : Nat) (reply : Reply)
  | poll (client : Nat)
  | wake (client : Nat) (mac : String)
  | listen (client : Nat)

def StepResult.remains (r : StepResult) : Option Flow :=
  match r.outcome with
  | .ok (.abort _) | .ok (.createEntry _ _) => none
  -- a form is shown again, and a flow survives an exception in one of its steps
  | _ => some r.flow

/-- The entry that a step created, and what its probe called the router. -/
def StepResult.creation (r : StepResult) : Option (ConfigEntry × Creation) :=
  match r.outcome with
  | .ok (.createEntry title data) =>
      let probe := (r.validation.bind Validation.accepted).getD .null
      some (⟨r.flow.uniqueId, title, data⟩,
        ⟨r.flow.uniqueId, (rawField probe "id").orElse (.str ""), data⟩)
  | _ => none

def StepResult.validated (r : StepResult) : List (String × String × Bool) :=
  match r.validation with
  | none => []
  | some v => if v.accepted.isSome then [v.triple] else []

def Hub.conclude (h : Hub) (flow : Nat) (submitted : List String) (r : StepResult) : Hub where
  entries := r.entries ++ r.creation.toList.map Prod.fst
  flows := h.flows.set flow r.remains
  clients := h.clients
  ledger := {
    validated := h.ledger.validated ++ r.validated
    created := h.ledger.created ++ r.creation.toList.map Prod.snd
    submitted := h.ledger.submitted ++ submitted
    requests := h.ledger.requests ++ r.requests }

/-- Home Assistant calls a step only on a flow in progress. -/
def Hub.onFlow (h : Hub) (flow : Nat) (submitted : List String)
    (call : Flow → List ConfigEntry → StepResult) : Hub :=
  match h.flows[flow]? with
  | some (some f) => h.conclude flow submitted (call f h.entries)
  | _ => h

def Hub.send (h : Hub) (requests : List Request) : Hub :=
  { h with ledger.requests := h.ledger.requests ++ requests }

/-- `async_setup_entry` up to the first refresh; an entry whose refresh failed is not loaded. -/
def Hub.setupEntry (h : Hub) (entry : Nat) (reply : Reply) : Hub :=
  match h.entries[entry]? with
  | none => h
  | some e =>
      let api : SprApiClient := .make e.data.verify e.data.url e.data.token
      let sent := h.send [api.stateRequest]
      if (SprApiClient.get reply).isOk then { sent with clients := h.clients ++ [api] } else sent

def Hub.onClient (h : Hub) (client : Nat) (request : SprApiClient → Request) : Hub :=
  match h.clients[client]? with
  | none => h
  | some api => h.send [request api]

def typedUrls (input : Option (UserInput × Replies)) : List String :=
  input.toList.map fun typed => typed.1.url

def Hub.step (h : Hub) : Move → Hub
  | .startFlow reauthEntry => { h with flows := h.flows ++ [some (.start reauthEntry)] }
  | .user flow input =>
      h.onFlow flow (typedUrls input) fun f entries => asyncStepUser f entries input
  | .zeroconf flow host reply =>
      h.onFlow flow [] fun f entries => asyncStepZeroconf f entries host reply
  | .discoveryConfirm flow input =>
      h.onFlow flow (typedUrls input) fun f entries => asyncStepDiscoveryConfirm f entries input
  | .reauthConfirm flow input =>
      h.onFlow flow [] fun f entries => asyncStepReauthConfirm f entries input
  | .setupEntry entry reply => h.setupEntry entry reply
  | .poll client => h.onClient client SprApiClient.stateRequest
  | .wake client mac => h.onClient client fun api => api.wakeRequest mac
  | .listen client => h.onClient client SprApiClient.eventsRequest

end SprHomeAssistant.Integration

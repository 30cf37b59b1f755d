import SprHomeAssistant.Integration.Effects

/-! Where the tokens go.

An advertisement decides which document is read and which URL a form suggests. The
requests that carry a token go only where a user's form or an entry points. A call of the
client is one request here: the redirects that its HTTP library follows are not modelled.
-/

set_option autoImplicit false

namespace SprHomeAssistant.Integration
open Library.Runs

/-- A request that carries a token is for one of the URLs. -/
def Request.Addressed (r : Request) (urls : List String) : Prop :=
  r.authorization ≠ none → ∃ url ∈ urls, r.base = clientBase url

/-- The URLs that users submitted so far, as they are normalized, and those of the entries
that were held at the start. -/
def Hub.trusted (h : Hub) (held : List ConfigEntry) : List String :=
  h.ledger.submitted.map normalizeUrl ++ held.map (·.data.url)

theorem Request.Addressed.mono {r : Request} {urls more : List String} (addressed : r.Addressed urls)
    (subset : urls ⊆ more) : r.Addressed more := by
  intro authorized
  obtain ⟨url, member, base⟩ := addressed authorized
  exact ⟨url, subset member, base⟩

/-! ## The requests of the flow steps -/

theorem afterValidation_addressed {v : Validation} {urls : List String} (trusted : v.url ∈ urls) {flow : Flow}
    {entries : List ConfigEntry} {stepId : String} {next : Json → StepResult} {r : Request}
    (sent : r ∈ (afterValidation v flow entries stepId next).requests) : r.Addressed urls := by
  intro _
  refine ⟨v.url, trusted, ?_⟩
  have sent : r ∈ v.requests := sent
  unfold Validation.requests at sent
  split at sent
  · rw [List.mem_singleton.mp sent]
    rfl
  · rcases List.mem_cons.mp sent with rfl | second
    · rfl
    · rw [List.mem_singleton.mp second]
      rfl

theorem asyncStepUser_addressed (flow : Flow) (entries : List ConfigEntry)
    (input : Option (UserInput × Replies)) {r : Request}
    (sent : r ∈ (asyncStepUser flow entries input).requests) :
    r.Addressed ((typedUrls input).map normalizeUrl) := by
  unfold asyncStepUser at sent
  split at sent
  · cases sent
  · exact afterValidation_addressed (by simp [typedUrls]) sent

theorem asyncStepDiscoveryConfirm_addressed (flow : Flow) (entries : List ConfigEntry)
    (input : Option (UserInput × Replies)) {r : Request}
    (sent : r ∈ (asyncStepDiscoveryConfirm flow entries input).requests) :
    r.Addressed ((typedUrls input).map normalizeUrl) := by
  unfold asyncStepDiscoveryConfirm at sent
  split at sent
  · cases sent
  · cases sent
  · exact afterValidation_addressed (by simp [typedUrls]) sent

theorem asyncStepReauthConfirm_addressed (flow : Flow) (entries : List ConfigEntry)
    (input : Option (String × Replies)) {r : Request}
    (sent : r ∈ (asyncStepReauthConfirm flow entries input).requests) :
    r.Addressed (entries.map (·.data.url)) := by
  unfold asyncStepReauthConfirm at sent
  split at sent
  · cases sent
  next i entry found =>
    split at sent
    · cases sent
    · apply afterValidation_addressed _ sent
      obtain ⟨j, _, named⟩ := Option.bind_eq_some_iff.mp found
      obtain ⟨other, there, same⟩ := Option.map_eq_some_iff.mp named
      rw [← (Prod.mk.inj same).2]
      exact List.mem_map_of_mem (List.mem_of_getElem? there)

/-! ## Every step -/

structure Hub.Guarded (h : Hub) (held : List ConfigEntry) : Prop where
  entries : ∀ entry ∈ h.entries, entry.data.url ∈ h.trusted held
  clients : ∀ api ∈ h.clients, ∃ url ∈ h.trusted held, api.base = clientBase url
  requests : ∀ r ∈ h.ledger.requests, r.Addressed (h.trusted held)

theorem step_submitted (h : Hub) (move : Move) :
    h.ledger.submitted ⊆ (h.step move).ledger.submitted := by
  have onFlow (flow : Nat) (submitted : List String) (call : Flow → List ConfigEntry → StepResult) :
      h.ledger.submitted ⊆ (h.onFlow flow submitted call).ledger.submitted := by
    obtain same | ⟨f, _, after⟩ := onFlow_cases h flow submitted call
    · rw [same]
      exact List.Subset.refl _
    · rw [after]
      exact List.subset_append_left _ _
  cases move with
  | startFlow reauthEntry => exact List.Subset.refl _
  | user flow input => exact onFlow flow _ _
  | zeroconf flow host reply => exact onFlow flow _ _
  | discoveryConfirm flow input => exact onFlow flow _ _
  | reauthConfirm flow input => exact onFlow flow _ _
  | setupEntry entry reply => exact (setupEntry_frames h entry reply).1.submitted ▸ List.Subset.refl _
  | poll client => exact (onClient_frames h client _).1.submitted ▸ List.Subset.refl _
  | wake client mac => exact (onClient_frames h client _).1.submitted ▸ List.Subset.refl _
  | listen client => exact (onClient_frames h client _).1.submitted ▸ List.Subset.refl _

theorem trusted_step (h : Hub) (held : List ConfigEntry) (move : Move) :
    h.trusted held ⊆ (h.step move).trusted held := by
  apply List.append_subset.mpr
  exact ⟨List.Subset.trans (List.map_subset _ (step_submitted h move)) (List.subset_append_left _ _),
    List.subset_append_right _ _⟩

theorem step_urls {h : Hub} {held : List ConfigEntry} (guarded : h.Guarded held) (move : Move) :
    ∀ entry ∈ (h.step move).entries, entry.data.url ∈ (h.step move).trusted held := by
  obtain ⟨validated, created, _, _, effect⟩ := step_affected h move
  have old : ∀ entry ∈ h.entries, entry.data.url ∈ (h.step move).trusted held :=
    fun entry member => trusted_step h held move (guarded.entries entry member)
  generalize (h.step move).entries = after at effect
  cases effect with
  | none => exact old
  -- the two effects that write a URL write one that this step's form submitted
  | create uniqueId id title v identifies typed =>
      intro entry member
      rcases List.mem_append.mp member with before | new
      · exact old entry before
      · rw [List.mem_singleton.mp new]
        exact List.mem_append_left _ typed
  | relocate v i relocates typed =>
      intro entry member
      rcases mem_modify member with before | ⟨entry, _, rfl⟩
      · exact old entry before
      · exact List.mem_append_left _ typed
  | retoken i entry token there =>
      intro entry member
      rcases mem_modify member with before | ⟨entry, found, rfl⟩
      · exact old entry before
      · exact old entry (List.mem_of_getElem? found)

theorem onFlow_clients (h : Hub) (flow : Nat) (submitted : List String)
    (call : Flow → List ConfigEntry → StepResult) : (h.onFlow flow submitted call).clients = h.clients := by
  obtain same | ⟨f, _, after⟩ := onFlow_cases h flow submitted call
  · rw [same]
  · rw [after]
    rfl

/-- A request that a step of a flow adds comes with the URLs that were submitted to it. -/
theorem onFlow_requests {h : Hub} {flow : Nat} {submitted : List String}
    {call : Flow → List ConfigEntry → StepResult} {r : Request}
    (sent : r ∈ (h.onFlow flow submitted call).ledger.requests) :
    r ∈ h.ledger.requests ∨
      (submitted ⊆ (h.onFlow flow submitted call).ledger.submitted ∧
        ∃ f, r ∈ (call f h.entries).requests) := by
  obtain same | ⟨f, _, after⟩ := onFlow_cases h flow submitted call
  · exact Or.inl (same ▸ sent)
  · rw [after] at sent ⊢
    exact (List.mem_append.mp sent).imp_right fun new => ⟨List.subset_append_right _ _, f, new⟩

theorem onFlow_guarded {h : Hub} {held : List ConfigEntry} (guarded : h.Guarded held) {move : Move}
    (flow : Nat) (submitted : List String) (call : Flow → List ConfigEntry → StepResult)
    (step : h.step move = h.onFlow flow submitted call)
    (addressed : ∀ f, ∀ r ∈ (call f h.entries).requests,
      r.Addressed (submitted.map normalizeUrl ++ h.entries.map (·.data.url))) :
    (h.step move).Guarded held := by
  have kept := trusted_step h held move
  refine ⟨step_urls guarded move, ?_, ?_⟩
  · intro api member
    rw [step, onFlow_clients] at member
    obtain ⟨url, trusted, base⟩ := guarded.clients api member
    exact ⟨url, kept trusted, base⟩
  · intro r sent
    rw [step] at sent
    obtain before | ⟨typed, f, new⟩ := onFlow_requests sent
    · exact (guarded.requests r before).mono kept
    · apply (addressed f r new).mono
      apply List.append_subset.mpr
      constructor
      · rw [← step] at typed
        exact List.Subset.trans (List.map_subset _ typed) (List.subset_append_left _ _)
      · intro url there
        obtain ⟨entry, member, rfl⟩ := List.mem_map.mp there
        exact kept (guarded.entries entry member)

theorem onClient_guarded {h : Hub} {held : List ConfigEntry} (guarded : h.Guarded held) (client : Nat)
    {request : SprApiClient → Request} (base : ∀ api, (request api).base = api.base) :
    (h.onClient client request).Guarded held := by
  unfold Hub.onClient
  split
  · exact guarded
  next api found =>
    refine ⟨guarded.entries, guarded.clients, fun r member => ?_⟩
    rcases List.mem_append.mp member with before | new
    · exact guarded.requests r before
    · rw [List.mem_singleton.mp new]
      intro _
      rw [base api]
      exact guarded.clients api (List.mem_of_getElem? found)

theorem setupEntry_guarded {h : Hub} {held : List ConfigEntry} (guarded : h.Guarded held) (entry : Nat)
    (reply : Reply) : (h.setupEntry entry reply).Guarded held := by
  unfold Hub.setupEntry
  split
  · exact guarded
  next e found =>
    have trusted := guarded.entries e (List.mem_of_getElem? found)
    have sent : (h.send [(SprApiClient.make e.data.verify e.data.url e.data.token).stateRequest]).Guarded
        held := by
      refine ⟨guarded.entries, guarded.clients, fun r member => ?_⟩
      rcases List.mem_append.mp member with before | new
      · exact guarded.requests r before
      · rw [List.mem_singleton.mp new]
        exact fun _ => ⟨_, trusted, rfl⟩
    dsimp only
    split
    · refine ⟨sent.entries, fun api member => ?_, sent.requests⟩
      rcases List.mem_append.mp member with before | new
      · exact guarded.clients api before
      · rw [List.mem_singleton.mp new]
        exact ⟨_, trusted, rfl⟩
    · exact sent

theorem step_guarded {h : Hub} {held : List ConfigEntry} (guarded : h.Guarded held) (move : Move) :
    (h.step move).Guarded held := by
  cases move with
  | startFlow reauthEntry => exact ⟨guarded.entries, guarded.clients, guarded.requests⟩
  | user flow input =>
      exact onFlow_guarded guarded flow (typedUrls input) (fun f entries => asyncStepUser f entries input) rfl
        fun f r sent => (asyncStepUser_addressed f h.entries input sent).mono (List.subset_append_left _ _)
  | zeroconf flow host reply =>
      -- the one request of a zeroconf step carries no token
      apply onFlow_guarded guarded flow [] (fun f entries => asyncStepZeroconf f entries host reply) rfl
      intro f r sent
      rw [List.mem_singleton.mp sent]
      exact fun authorized => absurd rfl authorized
  | discoveryConfirm flow input =>
      exact onFlow_guarded guarded flow (typedUrls input)
        (fun f entries => asyncStepDiscoveryConfirm f entries input) rfl
        fun f r sent => (asyncStepDiscoveryConfirm_addressed f h.entries input sent).mono (List.subset_append_left _ _)
  | reauthConfirm flow input =>
      exact onFlow_guarded guarded flow [] (fun f entries => asyncStepReauthConfirm f entries input) rfl
        fun f r sent => (asyncStepReauthConfirm_addressed f h.entries input sent).mono (List.subset_append_right _ _)
  | setupEntry entry reply => exact setupEntry_guarded guarded entry reply
  | poll client => exact onClient_guarded guarded client fun _ => rfl
  | wake client mac => exact onClient_guarded guarded client fun _ => rfl
  | listen client => exact onClient_guarded guarded client fun _ => rfl

theorem zeroconf_entries (h : Hub) (flow : Nat) (host : String) (reply : Reply) :
    (h.step (.zeroconf flow host reply)).entries = h.entries := by
  obtain same | ⟨f, _, after⟩ := onFlow_cases h flow []
    fun f entries => asyncStepZeroconf f entries host reply
  · exact congrArg Hub.entries same
  · obtain ⟨nothing, kept⟩ := asyncStepZeroconf_quiet f h.entries host reply
    exact (congrArg Hub.entries after).trans ((conclude_uncreated h flow [] nothing).1.trans kept)

/-- Over runs from any entries: a request that carries a token is for a URL that a user has
submitted or that an entry held at the start, and a zeroconf step changes no entry. -/
theorem run_credentials_guarded (held : List ConfigEntry) (moves : List Move) :
    (∀ r ∈ (run Hub.step (.start held) moves).ledger.requests,
      r.Addressed ((run Hub.step (.start held) moves).trusted held)) ∧
      ∀ t ∈ transitions Hub.step (.start held) moves, ∀ flow host reply,
        t.action = .zeroconf flow host reply → t.after.entries = t.before.entries := by
  have initial : (Hub.start held).Guarded held := by
    refine ⟨fun entry member => ?_, by simp [Hub.start], by simp [Hub.start]⟩
    exact List.mem_append_right _ (List.mem_map_of_mem member)
  constructor
  · have guarded := (invariant (fun h : Hub => h.Guarded held) (fun _ move holds => step_guarded holds move)
      initial moves).1
    exact guarded.requests
  · intro t member flow host reply action
    rw [transition_after member, action]
    exact zeroconf_entries t.before flow host reply

end SprHomeAssistant.Integration

import SprHomeAssistant.Integration.FlowSteps

/-! What one step of the whole can do to the entries.

Most steps leave them alone. The others create one entry, move one to a URL or give one a
token, and each of them has made a validation without errors.
-/

set_option autoImplicit false

namespace SprHomeAssistant.Integration

/-- A user step that meets the entry of the router it has probed. -/
def Hub.Relocates (h : Hub) (move : Move) (v : Validation) (i : Nat) : Prop :=
  v.Names h.entries i ∧ ∃ flow f input replies, move = .user flow (some (input, replies)) ∧
    h.flows[flow]? = some (some f) ∧ v = ⟨normalizeUrl input.url, input.token, input.verifySsl, replies⟩

/-- A step that creates an entry under whatever id its flow has, and what the probe calls
the router: a confirmation, or a user step whose probe gives no id. -/
def Hub.Inherits (h : Hub) (move : Move) (f : Flow) (id : Json) : Prop :=
  ∃ (flow : Nat) (input : UserInput) (replies : Replies) (v : Validation) (probe : Json),
    h.flows[flow]? = some (some f) ∧
    v = ⟨normalizeUrl input.url, input.token, input.verifySsl, replies⟩ ∧
    v.accepted = some probe ∧ probeId probe = .ok id ∧
    (move = .user flow (some (input, replies)) ∧ id.truthy = false ∨
      move = .discoveryConfirm flow (some (input, replies)) ∧ f.discoveredUrl.isSome = true)

/-- The unique id of a new entry, and what the probe calls its router. -/
inductive Hub.Identifies (h : Hub) (move : Move) : Option Json → Json → Prop where
  | probed (id : Json) (real : id.truthy = true) (unknown : findEntry h.entries id = none) :
      Identifies h move (some id) id
  | inherited (f : Flow) (id : Json) (inherits : h.Inherits move f id) : Identifies h move f.uniqueId id

/-- What a step can do to the entries, the triples that it validated and what it created. -/
inductive Hub.Effect (h : Hub) (move : Move) :
    List ConfigEntry → List (String × String × Bool) → List Creation → Prop where
  | none (validated) : Effect h move h.entries validated []
  | create (uniqueId : Option Json) (id title : Json) (v : Validation)
      (identifies : h.Identifies move uniqueId id)
      (typed : v.url ∈ (h.step move).ledger.submitted.map normalizeUrl) :
      Effect h move (h.entries ++ [⟨uniqueId, title, v.data⟩]) [v.triple] [⟨uniqueId, id, v.data⟩]
  | relocate (v : Validation) (i : Nat) (relocates : h.Relocates move v i)
      (typed : v.url ∈ (h.step move).ledger.submitted.map normalizeUrl) :
      Effect h move (h.entries.modify i (.setUrl v.url)) [v.triple] []
  | retoken (i : Nat) (entry : ConfigEntry) (token : String) (held : h.entries[i]? = some entry) :
      Effect h move (h.entries.modify i (.setToken token)) [(entry.data.url, token, entry.data.verify)] []

/-- The step has one of the effects, and the ledger records it. -/
def Hub.Affected (h : Hub) (move : Move) : Prop :=
  ∃ validated created, (h.step move).ledger.validated = h.ledger.validated ++ validated ∧
    (h.step move).ledger.created = h.ledger.created ++ created ∧
    h.Effect move (h.step move).entries validated created

theorem onFlow_cases (h : Hub) (flow : Nat) (submitted : List String)
    (call : Flow → List ConfigEntry → StepResult) :
    h.onFlow flow submitted call = h ∨
      ∃ f, h.flows[flow]? = some (some f) ∧
        h.onFlow flow submitted call = h.conclude flow submitted (call f h.entries) := by
  unfold Hub.onFlow
  split
  next f found => exact Or.inr ⟨f, found, rfl⟩
  next => exact Or.inl rfl

theorem conclude_validated (h : Hub) (flow : Nat) (submitted : List String) (r : StepResult) :
    (h.conclude flow submitted r).ledger.validated = h.ledger.validated ++ r.validated := rfl

theorem conclude_uncreated (h : Hub) (flow : Nat) (submitted : List String) {r : StepResult}
    (nothing : r.creation = none) :
    (h.conclude flow submitted r).entries = r.entries ∧
      (h.conclude flow submitted r).ledger.created = h.ledger.created := by
  simp [Hub.conclude, nothing]

theorem validated_of_accepted {r : StepResult} {v : Validation} (tried : r.validation = some v)
    {probe : Json} (accepted : v.accepted = some probe) : r.validated = [v.triple] := by
  simp [StepResult.validated, tried, accepted]

/-! ## The flow steps -/

section
variable {h : Hub} {move : Move} {flow : Nat} {r : StepResult}

theorem Affected.of_quiet {submitted : List String} (after : h.step move = h.conclude flow submitted r)
    (quiet : r.Quiet h.entries) : h.Affected move := by
  obtain ⟨nothing, same⟩ := quiet
  obtain ⟨entries, created⟩ := conclude_uncreated h flow submitted nothing
  refine ⟨r.validated, [], by rw [after]; rfl, by rw [after, created, List.append_nil], ?_⟩
  rw [after, entries, same]
  exact .none _

theorem Affected.of_creates (input : UserInput) (replies : Replies)
    (after : h.step move = h.conclude flow (typedUrls (some (input, replies))) r) {v : Validation}
    (typed : v.url = normalizeUrl input.url) {uniqueId : Option Json} {id : Json}
    (creates : r.Creates h.entries v uniqueId id) (identifies : h.Identifies move uniqueId id) :
    h.Affected move := by
  obtain ⟨title, made⟩ := creates.made
  obtain ⟨probe, accepted, _⟩ := creates.accepted
  have entries : (h.step move).entries = h.entries ++ [⟨uniqueId, title, v.data⟩] := by
    rw [after]
    simp [Hub.conclude, creates.kept, made]
  refine ⟨[v.triple], [⟨uniqueId, id, v.data⟩], ?_, ?_, ?_⟩
  · rw [after, conclude_validated, validated_of_accepted creates.tried accepted]
  · rw [after]
    simp [Hub.conclude, made]
  · rw [entries]
    exact .create uniqueId id title v identifies (by rw [after, typed]; simp [Hub.conclude, typedUrls])

end

theorem user_affected (h : Hub) (flow : Nat) (input : Option (UserInput × Replies)) (f : Flow)
    (progress : h.flows[flow]? = some (some f))
    (after : h.step (.user flow input) = h.conclude flow (typedUrls input) (asyncStepUser f h.entries input)) :
    h.Affected (.user flow input) := by
  cases input with
  | none => exact Affected.of_quiet after ⟨rfl, rfl⟩
  | some typed =>
      obtain ⟨input, replies⟩ := typed
      have effects := asyncStepUser_cases f h.entries input replies
      dsimp only at effects
      -- the validation is named, so that nothing tries to compute its URL
      generalize shape : (⟨normalizeUrl input.url, input.token, input.verifySsl, replies⟩ : Validation) = v
        at effects
      have typed : v.url = normalizeUrl input.url := by rw [← shape]
      obtain quiet | ⟨id, empty, creates⟩ | ⟨id, real, unknown, creates⟩ | ⟨i, names, tried, none, moved⟩ :=
        effects
      · exact Affected.of_quiet after quiet
      · obtain ⟨probe, accepted, named⟩ := creates.accepted
        exact Affected.of_creates input replies after typed creates (.inherited f id
          ⟨flow, input, replies, v, probe, progress, shape.symm, accepted, named, Or.inl ⟨rfl, empty⟩⟩)
      · exact Affected.of_creates input replies after typed creates (.probed id real unknown)
      · have names' := names
        obtain ⟨probe, id, accepted, _⟩ := names'
        obtain ⟨entries, created⟩ := conclude_uncreated h flow (typedUrls (some (input, replies))) none
        refine ⟨[v.triple], [], ?_, by rw [after, created, List.append_nil], ?_⟩
        · rw [after, conclude_validated, validated_of_accepted tried accepted]
        have entries : (h.step (.user flow (some (input, replies)))).entries =
            h.entries.modify i (.setUrl v.url) := by rw [after, entries, moved, typed]
        rw [entries]
        exact .relocate v i ⟨names, flow, f, input, replies, rfl, progress, shape.symm⟩
          (by rw [after, typed]; simp [Hub.conclude, typedUrls])

theorem discoveryConfirm_affected (h : Hub) (flow : Nat) (input : Option (UserInput × Replies)) (f : Flow)
    (progress : h.flows[flow]? = some (some f))
    (after : h.step (.discoveryConfirm flow input) =
      h.conclude flow (typedUrls input) (asyncStepDiscoveryConfirm f h.entries input)) :
    h.Affected (.discoveryConfirm flow input) := by
  cases input with
  | none => exact Affected.of_quiet after (asyncStepDiscoveryConfirm_form f h.entries)
  | some typed =>
      obtain ⟨input, replies⟩ := typed
      have effects := asyncStepDiscoveryConfirm_cases f h.entries input replies
      dsimp only at effects
      generalize shape : (⟨normalizeUrl input.url, input.token, input.verifySsl, replies⟩ : Validation) = v
        at effects
      have typed : v.url = normalizeUrl input.url := by rw [← shape]
      obtain quiet | ⟨id, discovered, creates⟩ := effects
      · exact Affected.of_quiet after quiet
      · obtain ⟨probe, accepted, named⟩ := creates.accepted
        exact Affected.of_creates input replies after typed creates (.inherited f id
          ⟨flow, input, replies, v, probe, progress, shape.symm, accepted, named, Or.inr ⟨rfl, discovered⟩⟩)

theorem reauthConfirm_affected (h : Hub) (flow : Nat) (input : Option (String × Replies)) (f : Flow)
    (after : h.step (.reauthConfirm flow input) =
      h.conclude flow [] (asyncStepReauthConfirm f h.entries input)) :
    h.Affected (.reauthConfirm flow input) := by
  obtain quiet | ⟨i, entry, token, replies, probe, held, tried, accepted, none, changed⟩ :=
    asyncStepReauthConfirm_cases f h.entries input
  · exact Affected.of_quiet after quiet
  · obtain ⟨entries, created⟩ := conclude_uncreated h flow [] none
    refine ⟨[(entry.data.url, token, entry.data.verify)], [], ?_, by rw [after, created, List.append_nil], ?_⟩
    · rw [after, conclude_validated, validated_of_accepted tried accepted]
      rfl
    have entries : (h.step (.reauthConfirm flow input)).entries =
        h.entries.modify i (.setToken token) := by rw [after, entries, changed]
    rw [entries]
    exact .retoken i entry token held

/-! ## Every step -/

/-- A step outside the flows leaves the entries, the flows and all of the ledger but the requests. -/
structure Hub.Frames (h after : Hub) : Prop where
  entries : after.entries = h.entries
  validated : after.ledger.validated = h.ledger.validated
  created : after.ledger.created = h.ledger.created
  submitted : after.ledger.submitted = h.ledger.submitted

theorem onClient_frames (h : Hub) (client : Nat) (request : SprApiClient → Request) :
    h.Frames (h.onClient client request) ∧ (h.onClient client request).flows = h.flows := by
  unfold Hub.onClient
  split
  · exact ⟨⟨rfl, rfl, rfl, rfl⟩, rfl⟩
  · exact ⟨⟨rfl, rfl, rfl, rfl⟩, rfl⟩

theorem setupEntry_frames (h : Hub) (entry : Nat) (reply : Reply) :
    h.Frames (h.setupEntry entry reply) ∧ (h.setupEntry entry reply).flows = h.flows := by
  unfold Hub.setupEntry
  split
  · exact ⟨⟨rfl, rfl, rfl, rfl⟩, rfl⟩
  · dsimp only
    split
    · exact ⟨⟨rfl, rfl, rfl, rfl⟩, rfl⟩
    · exact ⟨⟨rfl, rfl, rfl, rfl⟩, rfl⟩

theorem Affected.of_frames {h : Hub} {move : Move} (frames : h.Frames (h.step move)) : h.Affected move := by
  refine ⟨[], [], by rw [frames.validated, List.append_nil], by rw [frames.created, List.append_nil], ?_⟩
  rw [frames.entries]
  exact .none []

theorem step_affected (h : Hub) (move : Move) : h.Affected move := by
  -- a step on a flow that is not in progress changes nothing
  have idle {after : Hub} (same : after = h) (step : h.step move = after) : h.Affected move :=
    Affected.of_frames (by rw [step, same]; exact ⟨rfl, rfl, rfl, rfl⟩)
  cases move with
  | startFlow reauthEntry => exact Affected.of_frames ⟨rfl, rfl, rfl, rfl⟩
  | poll client => exact Affected.of_frames (onClient_frames h client _).1
  | wake client mac => exact Affected.of_frames (onClient_frames h client _).1
  | listen client => exact Affected.of_frames (onClient_frames h client _).1
  | setupEntry entry reply => exact Affected.of_frames (setupEntry_frames h entry reply).1
  | zeroconf flow host reply =>
      obtain same | ⟨f, _, after⟩ := onFlow_cases h flow []
        fun f entries => asyncStepZeroconf f entries host reply
      · exact idle same rfl
      · exact Affected.of_quiet after (asyncStepZeroconf_quiet f h.entries host reply)
  | user flow input =>
      obtain same | ⟨f, progress, after⟩ := onFlow_cases h flow (typedUrls input)
        fun f entries => asyncStepUser f entries input
      · exact idle same rfl
      · exact user_affected h flow input f progress after
  | discoveryConfirm flow input =>
      obtain same | ⟨f, progress, after⟩ := onFlow_cases h flow (typedUrls input)
        fun f entries => asyncStepDiscoveryConfirm f entries input
      · exact idle same rfl
      · exact discoveryConfirm_affected h flow input f progress after
  | reauthConfirm flow input =>
      obtain same | ⟨f, _, after⟩ := onFlow_cases h flow []
        fun f entries => asyncStepReauthConfirm f entries input
      · exact idle same rfl
      · exact reauthConfirm_affected h flow input f after

theorem mem_modify {f : ConfigEntry → ConfigEntry} {entries : List ConfigEntry} {i : Nat}
    {entry : ConfigEntry} (member : entry ∈ entries.modify i f) :
    entry ∈ entries ∨ ∃ old, entries[i]? = some old ∧ entry = f old := by
  obtain ⟨j, found⟩ := List.mem_iff_getElem?.mp member
  by_cases same : i = j
  · subst same
    rw [List.getElem?_modify_eq] at found
    obtain ⟨old, held, changed⟩ := Option.map_eq_some_iff.mp found
    exact Or.inr ⟨old, held, changed.symm⟩
  · rw [List.getElem?_modify_ne _ _ same] at found
    exact Or.inl (List.mem_of_getElem? found)

end SprHomeAssistant.Integration

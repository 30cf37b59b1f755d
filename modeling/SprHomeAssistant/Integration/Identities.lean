import SprHomeAssistant.Integration.Effects

/-! The unique ids of created entries, over runs of flow steps.

A user step takes the id from its own probe and looks for an entry that has it. A
confirmation keeps the id that an advertisement gave its flow, however the probe calls
the router, and does not look again.
-/

set_option autoImplicit false

namespace SprHomeAssistant.Integration
open Library.Runs

/-- The unique id of a created entry, if it has one, is not empty and is what the probe at
the entry's own URL called the router. -/
def Creation.Probed (c : Creation) : Prop :=
  ∀ id, c.uniqueId = some id → id.truthy = true ∧ c.probedId = id

structure Identified (created : List Creation) : Prop where
  probed : ∀ c ∈ created, c.Probed
  distinct : created.Pairwise fun a b => a.probedId.truthy = true → a.probedId ≠ b.probedId

/-- If the flow of a new entry has an id already, the probe gives that id, and no entry has
it yet. -/
def AdvertisedIsProbed (h : Hub) (move : Move) : Prop :=
  ∀ f id, h.Inherits move f id → ∀ advertised, f.uniqueId = some advertised →
    advertised = id ∧ id.truthy = true ∧ findEntry h.entries id = none

/-! ## Unique ids of entries -/

def Hub.uniqueIds (h : Hub) : List (Option Json) := h.entries.map (·.uniqueId)

theorem findEntry_eq_none (h : Hub) (id : Json) :
    findEntry h.entries id = none ↔ some id ∉ h.uniqueIds := by
  simp [findEntry, Hub.uniqueIds, List.findIdx?_eq_none_iff]

theorem uniqueIds_modify {f : ConfigEntry → ConfigEntry} (keeps : ∀ entry, (f entry).uniqueId = entry.uniqueId)
    (entries : List ConfigEntry) (i : Nat) :
    (entries.modify i f).map (·.uniqueId) = entries.map (·.uniqueId) := by
  apply List.ext_getElem?
  intro j
  by_cases same : i = j
  · subst same
    cases held : entries[i]? with
    | none => simp [held]
    | some entry => simp [held, keeps]
  · simp [List.getElem?_modify_ne _ _ same]

/-- A step creates at most one entry, and no entry changes its unique id. -/
theorem step_registers (h : Hub) (move : Move) :
    ∃ created, (h.step move).ledger.created = h.ledger.created ++ created ∧
      (h.step move).uniqueIds = h.uniqueIds ++ created.map Creation.uniqueId ∧
      (created = [] ∨ ∃ uniqueId id data, created = [⟨uniqueId, id, data⟩] ∧
        h.Identifies move uniqueId id) := by
  obtain ⟨validated, created, _, ledger, effect⟩ := step_affected h move
  refine ⟨created, ledger, ?_⟩
  unfold Hub.uniqueIds
  generalize (h.step move).entries = after at effect
  cases effect with
  | none => exact ⟨by simp, Or.inl rfl⟩
  | create uniqueId id title v identifies typed =>
      exact ⟨by simp, Or.inr ⟨uniqueId, id, v.data, rfl, identifies⟩⟩
  | relocate v i relocates typed =>
      rw [uniqueIds_modify (f := .setUrl v.url) fun _ => rfl]
      exact ⟨by simp, Or.inl rfl⟩
  | retoken i entry token held =>
      rw [uniqueIds_modify (f := .setToken token) fun _ => rfl]
      exact ⟨by simp, Or.inl rfl⟩

/-! ## The flows that present a discovered router -/

/-- The flow of a step stays as it was, or has an id that no entry has. -/
def StepResult.Leaves (r : StepResult) (flow : Flow) (entries : List ConfigEntry) : Prop :=
  ∀ f, r.remains = some f → f = flow ∨
    ∃ id, f.uniqueId = some id ∧ id.truthy = true ∧ findEntry entries id = none

theorem StepResult.remains_flow {r : StepResult} {f : Flow} (remains : r.remains = some f) : f = r.flow := by
  unfold StepResult.remains at remains
  split at remains
  · cases remains
  · cases remains
  · exact (Option.some.inj remains).symm

theorem leaves_of_flow {r : StepResult} {flow : Flow} (entries : List ConfigEntry) (same : r.flow = flow) :
    r.Leaves flow entries := by
  intro f remains
  exact Or.inl ((StepResult.remains_flow remains).trans same)

theorem afterValidation_leaves (v : Validation) (flow : Flow) (entries : List ConfigEntry) (stepId : String)
    {next : Json → StepResult} (leaves : ∀ probe, (next probe).Leaves flow entries) :
    (afterValidation v flow entries stepId next).Leaves flow entries := by
  obtain ⟨_, _, same⟩ | ⟨probe, _, ended⟩ := afterValidation_cases v flow entries stepId next
  · exact leaves_of_flow entries same
  · rw [ended]
    exact leaves probe

theorem asyncStepUser_leaves (flow : Flow) (entries : List ConfigEntry) (input : Option (UserInput × Replies)) :
    (asyncStepUser flow entries input).Leaves flow entries := by
  cases input with
  | none => exact leaves_of_flow entries rfl
  | some typed =>
      apply afterValidation_leaves
      intro probe
      unfold createFromProbe
      split
      · exact leaves_of_flow entries rfl
      · dsimp only
        split
        -- the step ends its flow in both branches of a probe that gives an id
        · split <;> · intro f remains; cases remains
        · exact leaves_of_flow entries rfl

theorem asyncStepDiscoveryConfirm_leaves (flow : Flow) (entries : List ConfigEntry)
    (input : Option (UserInput × Replies)) :
    (asyncStepDiscoveryConfirm flow entries input).Leaves flow entries := by
  unfold asyncStepDiscoveryConfirm
  split
  · exact leaves_of_flow entries rfl
  · exact leaves_of_flow entries rfl
  · apply afterValidation_leaves
    intro probe
    unfold createDiscovered
    split <;> exact leaves_of_flow entries rfl

theorem asyncStepReauthConfirm_leaves (flow : Flow) (entries : List ConfigEntry)
    (input : Option (String × Replies)) :
    (asyncStepReauthConfirm flow entries input).Leaves flow entries := by
  unfold asyncStepReauthConfirm
  split
  · exact leaves_of_flow entries rfl
  · split
    · exact leaves_of_flow entries rfl
    · apply afterValidation_leaves
      intro probe
      exact leaves_of_flow entries rfl

theorem asyncStepZeroconf_leaves (flow : Flow) (entries : List ConfigEntry) (host : String) (reply : Reply) :
    (asyncStepZeroconf flow entries host reply).Leaves flow entries := by
  unfold asyncStepZeroconf
  split
  · exact leaves_of_flow entries rfl
  · exact leaves_of_flow entries rfl
  · exact leaves_of_flow entries rfl
  next info _ =>
    unfold presentRouter
    cases real : (rawField info "id").truthy with
    | false =>
        simp only [real, Bool.not_false, if_true]
        exact leaves_of_flow entries rfl
    | true =>
        simp only [real, Bool.not_true, Bool.false_eq_true, if_false]
        cases unknown : findEntry entries (rawField info "id") with
        | some i =>
            intro f remains
            cases remains
        | none =>
            intro f remains
            cases StepResult.remains_flow remains
            exact Or.inr ⟨_, rfl, real, unknown⟩

theorem onFlow_leaves {h : Hub} {flow : Nat} {submitted : List String}
    {call : Flow → List ConfigEntry → StepResult} (leaves : ∀ f, (call f h.entries).Leaves f h.entries)
    {f : Flow} (progress : some f ∈ (h.onFlow flow submitted call).flows) :
    some f ∈ h.flows ∨ ∃ id, f.uniqueId = some id ∧ id.truthy = true ∧ findEntry h.entries id = none := by
  obtain same | ⟨before, found, after⟩ := onFlow_cases h flow submitted call
  · rw [same] at progress
    exact Or.inl progress
  · rw [after] at progress
    rcases List.mem_or_eq_of_mem_set progress with old | remains
    · exact Or.inl old
    · rcases leaves before f remains.symm with rfl | fresh
      · exact Or.inl (List.mem_of_getElem? found)
      · exact Or.inr fresh

/-- A flow in progress was so before the step, is new, or has an id that no entry had. -/
theorem step_flows (h : Hub) (move : Move) {f : Flow} (progress : some f ∈ (h.step move).flows) :
    some f ∈ h.flows ∨ f.discoveredUrl = none ∨
      ∃ id, f.uniqueId = some id ∧ id.truthy = true ∧ findEntry h.entries id = none := by
  have old {after : Hub} (same : after.flows = h.flows) (step : h.step move = after) : some f ∈ h.flows := by
    rwa [step, same] at progress
  cases move with
  | startFlow reauthEntry =>
      rcases List.mem_append.mp progress with held | new
      · exact Or.inl held
      · rw [List.mem_singleton, Option.some.injEq] at new
        exact Or.inr (Or.inl (by rw [new]; rfl))
  | poll client => exact Or.inl (old (onClient_frames h client _).2 rfl)
  | wake client mac => exact Or.inl (old (onClient_frames h client _).2 rfl)
  | listen client => exact Or.inl (old (onClient_frames h client _).2 rfl)
  | setupEntry entry reply => exact Or.inl (old (setupEntry_frames h entry reply).2 rfl)
  | user flow input =>
      exact (onFlow_leaves (fun f => asyncStepUser_leaves f h.entries input) progress).imp id Or.inr
  | zeroconf flow host reply =>
      exact (onFlow_leaves (fun f => asyncStepZeroconf_leaves f h.entries host reply) progress).imp id Or.inr
  | discoveryConfirm flow input =>
      exact (onFlow_leaves (fun f => asyncStepDiscoveryConfirm_leaves f h.entries input) progress).imp
        id Or.inr
  | reauthConfirm flow input =>
      exact (onFlow_leaves (fun f => asyncStepReauthConfirm_leaves f h.entries input) progress).imp id Or.inr

/-- A flow that presents a discovered router has its advertised id, and any entry that has
that id too was created since the run began. -/
def Presenting (h : Hub) : Prop :=
  ∀ f, some f ∈ h.flows → f.discoveredUrl.isSome = true → ∃ id, f.uniqueId = some id ∧ id.truthy = true ∧
    (some id ∈ h.uniqueIds → ∃ c ∈ h.ledger.created, c.uniqueId = some id)

theorem step_presenting {h : Hub} (move : Move) (presenting : Presenting h) : Presenting (h.step move) := by
  obtain ⟨created, ledger, uniqueIds, _⟩ := step_registers h move
  intro f progress discovered
  rw [ledger, uniqueIds]
  have since {id : Json} (held : some id ∈ h.uniqueIds → ∃ c ∈ h.ledger.created, c.uniqueId = some id) :
      some id ∈ h.uniqueIds ++ created.map Creation.uniqueId →
        ∃ c ∈ h.ledger.created ++ created, c.uniqueId = some id := by
    intro member
    rcases List.mem_append.mp member with old | new
    · obtain ⟨c, made, same⟩ := held old
      exact ⟨c, List.mem_append_left _ made, same⟩
    · obtain ⟨c, made, same⟩ := List.mem_map.mp new
      exact ⟨c, List.mem_append_right _ made, same⟩
  rcases step_flows h move progress with old | fresh | ⟨id, named, real, unknown⟩
  · obtain ⟨id, named, real, held⟩ := presenting f old discovered
    exact ⟨id, named, real, since held⟩
  · rw [fresh] at discovered
    cases discovered
  · refine ⟨id, named, real, since fun member => ?_⟩
    exact absurd member ((findEntry_eq_none h id).mp unknown)

/-! ## What is created -/

theorem inherits_creates {h : Hub} {move : Move} {f : Flow} {id : Json} (inherits : h.Inherits move f id) :
    ∃ data, (h.step move).ledger.created = h.ledger.created ++ [⟨f.uniqueId, id, data⟩] := by
  obtain ⟨flow, input, replies, v, probe, progress, shape, accepted, named, kind⟩ := inherits
  have created {r : StepResult} (step : h.step move = h.conclude flow (typedUrls (some (input, replies))) r)
      (creates : r.Creates h.entries v f.uniqueId id) : (h.step move).ledger.created =
        h.ledger.created ++ [⟨f.uniqueId, id, v.data⟩] := by
    obtain ⟨title, made⟩ := creates.made
    rw [step]
    simp [Hub.conclude, made]
  rcases kind with ⟨rfl, empty⟩ | ⟨rfl, discovered⟩
  · refine ⟨v.data, created (r := asyncStepUser f h.entries (some (input, replies))) ?_
      (asyncStepUser_nameless f h.entries input replies shape accepted named empty)⟩
    simp only [Hub.step, Hub.onFlow, progress]
  · refine ⟨v.data, created (r := asyncStepDiscoveryConfirm f h.entries (some (input, replies))) ?_
      (asyncStepDiscoveryConfirm_accepted f h.entries input replies shape discovered accepted named)⟩
    simp only [Hub.step, Hub.onFlow, progress]

/-- What the proof of a run carries: a probed id that was given to an entry is still there. -/
structure Hub.Settled (h : Hub) : Prop where
  identified : Identified h.ledger.created
  stored : ∀ c ∈ h.ledger.created, c.probedId.truthy = true → some c.probedId ∈ h.uniqueIds
  presenting : Presenting h

/-- An entry is created under a real id that no entry has, or without any id. -/
theorem identifies_cases {h : Hub} {move : Move} (presenting : Presenting h)
    (advertised : AdvertisedIsProbed h move) {uniqueId : Option Json} {id : Json}
    (identifies : h.Identifies move uniqueId id) :
    (uniqueId = some id ∧ id.truthy = true ∧ some id ∉ h.uniqueIds) ∨
      (uniqueId = none ∧ id.truthy = false) := by
  cases identifies with
  | probed id real unknown => exact Or.inl ⟨rfl, real, (findEntry_eq_none h id).mp unknown⟩
  | inherited f id inherits =>
      -- only a flow that never met an advertisement is without an id
      cases held : f.uniqueId with
      | some taken =>
          obtain ⟨rfl, real, unknown⟩ := advertised f id inherits taken held
          exact Or.inl ⟨rfl, real, (findEntry_eq_none h taken).mp unknown⟩
      | none =>
          obtain ⟨flow, _, _, _, _, progress, _, _, _, ⟨_, empty⟩ | ⟨_, discovered⟩⟩ := inherits
          · exact Or.inr ⟨rfl, empty⟩
          · obtain ⟨taken, named, _⟩ := presenting f (List.mem_of_getElem? progress) discovered
            rw [held] at named
            cases named

theorem Identified.concat {created : List Creation} (identified : Identified created) {c : Creation}
    (probed : c.Probed)
    (fresh : ∀ earlier ∈ created, earlier.probedId.truthy = true → earlier.probedId ≠ c.probedId) :
    Identified (created ++ [c]) where
  probed := List.forall_mem_append.mpr ⟨identified.probed, by simpa using probed⟩
  distinct := List.pairwise_append.mpr
    ⟨identified.distinct, List.pairwise_singleton _ _, fun earlier member => by simpa using fresh earlier member⟩

/-- A new entry goes by the id that its probe gave, and no entry had that id. -/
theorem creation_settles {h : Hub} (settled : h.Settled) {uniqueId : Option Json} {id : Json} (data : EntryData)
    (cases : (uniqueId = some id ∧ id.truthy = true ∧ some id ∉ h.uniqueIds) ∨
      (uniqueId = none ∧ id.truthy = false)) :
    Identified (h.ledger.created ++ [⟨uniqueId, id, data⟩]) ∧
      (id.truthy = true → some id ∈ h.uniqueIds ++ [uniqueId]) := by
  rcases cases with ⟨rfl, real, unknown⟩ | ⟨rfl, empty⟩
  · refine ⟨settled.identified.concat ?_ fun earlier member truthy same => ?_, fun _ => by simp⟩
    · rintro given ⟨rfl⟩
      exact ⟨real, rfl⟩
    -- an earlier entry with this probed id would still have it as its unique id
    · apply unknown
      rw [← show earlier.probedId = id from same]
      exact settled.stored earlier member truthy
  · refine ⟨settled.identified.concat ?_ fun earlier member truthy same => ?_, fun real => ?_⟩
    · rintro given ⟨⟩
    · rw [show earlier.probedId = id from same, empty] at truthy
      cases truthy
    · rw [empty] at real
      cases real

theorem step_settled {h : Hub} {move : Move} (settled : h.Settled) (advertised : AdvertisedIsProbed h move) :
    (h.step move).Settled := by
  have presenting := step_presenting move settled.presenting
  obtain ⟨created, ledger, uniqueIds, rfl | ⟨uniqueId, id, data, rfl, identifies⟩⟩ := step_registers h move
  · rw [List.append_nil] at ledger
    rw [List.map_nil, List.append_nil] at uniqueIds
    exact ⟨by rw [ledger]; exact settled.identified, by rw [ledger, uniqueIds]; exact settled.stored, presenting⟩
  · obtain ⟨identified, stored⟩ :=
      creation_settles settled data (identifies_cases settled.presenting advertised identifies)
    refine ⟨by rw [ledger]; exact identified, ?_, presenting⟩
    rw [ledger, uniqueIds, List.forall_mem_append]
    exact ⟨fun c old real => List.mem_append_left _ (settled.stored c old real), by simpa using stored⟩

theorem advertised_of_identified {h : Hub} {move : Move} (presenting : Presenting h)
    (identified : Identified (h.step move).ledger.created) : AdvertisedIsProbed h move := by
  intro f id inherits advertised held
  obtain ⟨data, ledger⟩ := inherits_creates inherits
  rw [ledger, held] at identified
  obtain ⟨real, same⟩ := identified.probed ⟨some advertised, id, data⟩ (by simp) advertised rfl
  have same : id = advertised := same
  subst same
  refine ⟨rfl, real, (findEntry_eq_none h id).mpr fun member => ?_⟩
  obtain ⟨flow, _, _, _, _, progress, _, _, _, ⟨_, empty⟩ | ⟨_, discovered⟩⟩ := inherits
  · rw [real] at empty
    cases empty
  -- an entry that got this id while the flow waited has the id of its own probe
  obtain ⟨taken, named, _, since⟩ := presenting f (List.mem_of_getElem? progress) discovered
  rw [held, Option.some.injEq] at named
  subst named
  obtain ⟨c, made, unique⟩ := since member
  obtain ⟨realC, sameC⟩ := identified.probed c (List.mem_append_left _ made) id unique
  have apart := (List.pairwise_append.mp identified.distinct).2.2 c made ⟨some id, id, data⟩ (by simp)
  exact apart (by rw [sameC]; exact realC) sameC

/-- Over runs from any entries: every created entry has the id of its own probe and no
probed id is given twice, exactly when every flow that creates an entry under an
advertised id finds that id in its probe and in no entry. -/
theorem run_identified_iff (entries : List ConfigEntry) (moves : List Move) :
    (∀ t ∈ transitions Hub.step (.start entries) moves, Identified t.after.ledger.created) ↔
      ∀ t ∈ transitions Hub.step (.start entries) moves, AdvertisedIsProbed t.before t.action := by
  have initial : Presenting (.start entries) := by simp [Presenting, Hub.start]
  constructor
  · intro identified t member
    obtain ⟨_, along⟩ := invariant Presenting (fun _ move => step_presenting move) initial moves
    have after := identified t member
    rw [transition_after member] at after
    exact advertised_of_identified (along t member).1 after
  · intro advertised t member
    have settled : (Hub.start entries).Settled :=
      ⟨⟨by simp [Hub.start], List.Pairwise.nil⟩, by simp [Hub.start], initial⟩
    obtain ⟨_, along⟩ := invariant_of_allowed Hub.Settled AdvertisedIsProbed
      (fun _ _ => step_settled) settled advertised
    exact (along t member).2.identified

/-- A router advertises an id, and the URL of the confirmation leads to another router. -/
def confirmedElsewhere : List Move :=
  [.startFlow none,
    .zeroconf 0 "192.0.2.1" (jsonReply "\x7b\"product\":\"spr\",\"id\":\"advertised\"\x7d"
      (.obj [("product", .str "spr"), ("id", .str "advertised")])),
    .discoveryConfirm 0 (some (⟨"https://192.0.2.2", "token", false⟩, routerReplies "probed"))]

/-- The entry is created with the advertised id. -/
theorem confirmedElsewhere_keeps_advertised_id :
    ¬ ∀ entries moves, ∀ t ∈ transitions Hub.step (.start entries) moves,
      Identified t.after.ledger.created := by
  intro all
  have identified := all [] confirmedElsewhere _ (last_mem_transitions (Hub.start []) (confirmedElsewhere.take 2)
    (.discoveryConfirm 0 (some (⟨"https://192.0.2.2", "token", false⟩, routerReplies "probed"))))
  have created : (run Hub.step (.start []) confirmedElsewhere).ledger.created.map
      (fun c => (c.uniqueId, c.probedId)) = [(some (.str "advertised"), .str "probed")] := by decide +kernel
  obtain ⟨c, made, same⟩ : ∃ c ∈ (run Hub.step (.start []) confirmedElsewhere).ledger.created,
      (c.uniqueId, c.probedId) = (some (.str "advertised"), .str "probed") := by
    apply List.mem_map.mp
    rw [created]
    exact List.mem_singleton.mpr rfl
  obtain ⟨unique, probed⟩ := Prod.mk.inj same
  obtain ⟨_, probed'⟩ := identified.probed c made (.str "advertised") unique
  rw [probed] at probed'
  exact absurd probed' (by decide)

end SprHomeAssistant.Integration

import SprHomeAssistant.Integration.ConfigFlow

/-! What each step of the config flow can do to the entries.

Most steps end without touching them. A step that does has made a validation without
errors: it creates an entry, moves an existing one to its URL or gives one its token.
-/

set_option autoImplicit false

namespace SprHomeAssistant.Integration

/-- The step neither creates an entry nor changes one. -/
def StepResult.Quiet (r : StepResult) (entries : List ConfigEntry) : Prop :=
  r.creation = none ∧ r.entries = entries

/-- The step creates an entry from a validated probe. -/
structure StepResult.Creates (r : StepResult) (entries : List ConfigEntry) (v : Validation)
    (uniqueId : Option Json) (routerId : Json) : Prop where
  kept : r.entries = entries
  tried : r.validation = some v
  accepted : ∃ probe, v.accepted = some probe ∧ probeId probe = .ok routerId
  made : ∃ title, r.creation = some (⟨uniqueId, title, v.data⟩, ⟨uniqueId, routerId, v.data⟩)

theorem rawField_of_probeId {probe id : Json} (named : probeId probe = .ok id) :
    (rawField probe "id").orElse (.str "") = id := by
  cases probe with
  | obj fields => exact Except.ok.inj named
  | null | bool _ | int _ | float _ | nonFinite | str _ | arr _ => cases named

theorem accepted_eq_some {v : Validation} {probe : Json} :
    v.accepted = some probe ↔ v.outcome = .ok ([], probe) := by
  unfold Validation.accepted
  split
  next probe' found => simp [found]
  next other =>
    constructor
    · intro none
      cases none
    · intro found
      exact absurd found (other probe)

/-- A step from its validation on: it ends quietly, or goes on with the probe. -/
theorem afterValidation_cases (v : Validation) (flow : Flow) (entries : List ConfigEntry) (stepId : String)
    (next : Json → StepResult) :
    (v.accepted = none ∧ (afterValidation v flow entries stepId next).Quiet entries ∧
        (afterValidation v flow entries stepId next).flow = flow) ∨
      ∃ probe, v.accepted = some probe ∧
        afterValidation v flow entries stepId next = (next probe).after v := by
  unfold afterValidation
  split
  next err failed =>
    refine Or.inl ⟨?_, ⟨rfl, rfl⟩, rfl⟩
    simp [Validation.accepted, failed]
  next probe passed => exact Or.inr ⟨probe, accepted_eq_some.mpr passed, rfl⟩
  next errors probe nonempty failed =>
    refine Or.inl ⟨?_, ⟨rfl, rfl⟩, rfl⟩
    cases found : v.accepted with
    | none => rfl
    | some probe' =>
        rw [accepted_eq_some, failed, Except.ok.injEq, Prod.mk.injEq] at found
        exact absurd found.1 nonempty

theorem afterValidation_accepted {v : Validation} {probe : Json} (accepted : v.accepted = some probe)
    (flow : Flow) (entries : List ConfigEntry) (stepId : String) (next : Json → StepResult) :
    afterValidation v flow entries stepId next = (next probe).after v := by
  obtain ⟨rejected, _⟩ | ⟨probe', accepted', ended⟩ := afterValidation_cases v flow entries stepId next
  · rw [accepted] at rejected
    cases rejected
  · rw [accepted, Option.some.injEq] at accepted'
    rw [ended, accepted']

theorem creates_of_accepted {v : Validation} {probe id : Json} (accepted : v.accepted = some probe)
    (named : probeId probe = .ok id) (title : Json) (flow : Flow) (entries : List ConfigEntry) :
    ((StepResult.make (.ok (.createEntry title v.data)) flow entries).after v).Creates entries v
      flow.uniqueId id := by
  refine ⟨rfl, rfl, ⟨probe, accepted, named⟩, title, ?_⟩
  simp [StepResult.creation, StepResult.after, StepResult.make, accepted, rawField_of_probeId named]

/-! ## The user step -/

section
variable (v : Validation) (flow : Flow) (entries : List ConfigEntry) {probe id : Json}

theorem createFromProbe_error {err : PyError} (named : probeId probe = .error err) :
    createFromProbe v flow entries probe = .make (.error err) flow entries := by
  simp [createFromProbe, named]

theorem createFromProbe_nameless (named : probeId probe = .ok id) (empty : id.truthy = false) :
    createFromProbe v flow entries probe = .make
      (.ok (.createEntry ((rawField probe "hostname").orElse (.str "SPR")) v.data)) flow entries := by
  simp [createFromProbe, named, empty]

theorem createFromProbe_new (named : probeId probe = .ok id) (real : id.truthy = true)
    (unknown : findEntry entries id = none) :
    createFromProbe v flow entries probe = .make
      (.ok (.createEntry ((rawField probe "hostname").orElse (.str "SPR")) v.data))
      { flow with uniqueId := some id } entries := by
  simp [createFromProbe, named, real, unknown]

theorem createFromProbe_known (named : probeId probe = .ok id) (real : id.truthy = true) {i : Nat}
    (known : findEntry entries id = some i) :
    createFromProbe v flow entries probe = .make (.ok (.abort "already_configured"))
      { flow with uniqueId := some id } (entries.modify i (.setUrl v.url)) := by
  simp [createFromProbe, named, real, known]

end

/-- The accepted probe of a validation names the router of an entry. -/
def Validation.Names (v : Validation) (entries : List ConfigEntry) (i : Nat) : Prop :=
  ∃ probe id, v.accepted = some probe ∧ probeId probe = .ok id ∧ id.truthy = true ∧
    findEntry entries id = some i

/-- The user step with input: nothing changes; an entry is created, under the probed id if
there is one; or the router has an entry, which is moved to the new URL. -/
theorem asyncStepUser_cases (flow : Flow) (entries : List ConfigEntry) (input : UserInput)
    (replies : Replies) :
    let v : Validation := ⟨normalizeUrl input.url, input.token, input.verifySsl, replies⟩
    let r := asyncStepUser flow entries (some (input, replies))
    r.Quiet entries ∨
      (∃ id, id.truthy = false ∧ r.Creates entries v flow.uniqueId id) ∨
      (∃ id, id.truthy = true ∧ findEntry entries id = none ∧ r.Creates entries v (some id) id) ∨
      ∃ i, v.Names entries i ∧ r.validation = some v ∧ r.creation = none ∧
        r.entries = entries.modify i (.setUrl v.url) := by
  intro v r
  obtain ⟨_, quiet, _⟩ | ⟨probe, accepted, result⟩ :=
    afterValidation_cases v flow entries "user" (createFromProbe v flow entries)
  · exact Or.inl quiet
  · have result : r = (createFromProbe v flow entries probe).after v := result
    rw [result]
    cases named : probeId probe with
    | error err =>
        rw [createFromProbe_error v flow entries named]
        exact Or.inl ⟨rfl, rfl⟩
    | ok id =>
        right
        cases real : id.truthy with
        | false =>
            rw [createFromProbe_nameless v flow entries named real]
            exact Or.inl ⟨id, real, creates_of_accepted accepted named _ flow entries⟩
        | true =>
            right
            cases found : findEntry entries id with
            | none =>
                rw [createFromProbe_new v flow entries named real found]
                exact Or.inl ⟨id, real, found, creates_of_accepted accepted named _ _ entries⟩
            | some i =>
                rw [createFromProbe_known v flow entries named real found]
                exact Or.inr ⟨i, ⟨probe, id, accepted, named, real, found⟩, rfl, rfl, rfl⟩

section
variable (flow : Flow) (entries : List ConfigEntry) (input : UserInput) (replies : Replies) {v : Validation}
  (shape : v = ⟨normalizeUrl input.url, input.token, input.verifySsl, replies⟩)
include shape

theorem asyncStepUser_names {i : Nat} (names : v.Names entries i) :
    let r := asyncStepUser flow entries (some (input, replies))
    r.validation = some v ∧ r.creation = none ∧ r.entries = entries.modify i (.setUrl v.url) := by
  obtain ⟨probe, id, accepted, named, real, known⟩ := names
  subst shape
  simp only [asyncStepUser, afterValidation_accepted accepted,
    createFromProbe_known _ flow entries named real known]
  exact ⟨rfl, rfl, rfl⟩

/-- A user step whose probe gives no id creates an entry under the id its flow had. -/
theorem asyncStepUser_nameless {probe id : Json} (accepted : v.accepted = some probe)
    (named : probeId probe = .ok id) (empty : id.truthy = false) :
    (asyncStepUser flow entries (some (input, replies))).Creates entries v flow.uniqueId id := by
  subst shape
  simp only [asyncStepUser, afterValidation_accepted accepted,
    createFromProbe_nameless _ flow entries named empty]
  exact creates_of_accepted accepted named _ flow entries

theorem asyncStepDiscoveryConfirm_accepted (discovered : flow.discoveredUrl.isSome = true)
    {probe id : Json} (accepted : v.accepted = some probe) (named : probeId probe = .ok id) :
    (asyncStepDiscoveryConfirm flow entries (some (input, replies))).Creates entries v flow.uniqueId id := by
  subst shape
  obtain ⟨url, found⟩ := Option.isSome_iff_exists.mp discovered
  cases probe with
  | obj fields =>
      simp only [asyncStepDiscoveryConfirm, found, afterValidation_accepted accepted]
      exact creates_of_accepted accepted named _ flow entries
  | null | bool _ | int _ | float _ | nonFinite | str _ | arr _ => cases named

end

/-! ## The other steps -/

theorem probeId_of_hostname {probe hostname : Json} (given : probe.get "hostname" = .ok hostname) :
    ∃ id, probeId probe = .ok id := by
  cases probe with
  | obj fields => exact ⟨_, rfl⟩
  | null | bool _ | int _ | float _ | nonFinite | str _ | arr _ => cases given

/-- The confirmation of a discovered router creates its entry under the flow's id, whatever
the probe calls the router. -/
theorem asyncStepDiscoveryConfirm_cases (flow : Flow) (entries : List ConfigEntry) (input : UserInput)
    (replies : Replies) :
    let v : Validation := ⟨normalizeUrl input.url, input.token, input.verifySsl, replies⟩
    let r := asyncStepDiscoveryConfirm flow entries (some (input, replies))
    r.Quiet entries ∨
      ∃ id, flow.discoveredUrl.isSome = true ∧ r.Creates entries v flow.uniqueId id := by
  intro v r
  cases discovered : flow.discoveredUrl with
  | none =>
      have result : r = .make (.error .assertionError) flow entries := by
        simp only [r, asyncStepDiscoveryConfirm, discovered]
      rw [result]
      exact Or.inl ⟨rfl, rfl⟩
  | some url =>
      have result : r = afterValidation v flow entries "discovery_confirm"
          (createDiscovered v flow entries) := by
        simp only [r, asyncStepDiscoveryConfirm, discovered]
        rfl
      rw [result]
      obtain ⟨_, quiet, _⟩ | ⟨probe, accepted, result⟩ := afterValidation_cases v flow entries
        "discovery_confirm" (createDiscovered v flow entries)
      · exact Or.inl quiet
      · rw [result]
        unfold createDiscovered
        cases given : probe.get "hostname" with
        | error err => exact Or.inl ⟨rfl, rfl⟩
        | ok hostname =>
            obtain ⟨id, named⟩ := probeId_of_hostname given
            exact Or.inr ⟨id, rfl, creates_of_accepted accepted named _ flow entries⟩

theorem asyncStepDiscoveryConfirm_form (flow : Flow) (entries : List ConfigEntry) :
    (asyncStepDiscoveryConfirm flow entries none).Quiet entries := by
  unfold asyncStepDiscoveryConfirm
  cases flow.discoveredUrl with
  | none => exact ⟨rfl, rfl⟩
  | some url => exact ⟨rfl, rfl⟩

theorem presentRouter_quiet (flow : Flow) (entries : List ConfigEntry) (url : String) (info : Json) :
    (presentRouter flow entries url info).Quiet entries := by
  unfold presentRouter
  cases real : (rawField info "id").truthy with
  | false =>
      simp only [real, Bool.not_false, if_true]
      exact ⟨rfl, rfl⟩
  | true =>
      simp only [real, Bool.not_true, Bool.false_eq_true, if_false]
      cases findEntry entries (rawField info "id") with
      | some i => exact ⟨rfl, rfl⟩
      | none => exact ⟨rfl, rfl⟩

theorem asyncStepZeroconf_quiet (flow : Flow) (entries : List ConfigEntry) (host : String) (reply : Reply) :
    (asyncStepZeroconf flow entries host reply).Quiet entries := by
  unfold asyncStepZeroconf
  split
  · exact ⟨rfl, rfl⟩
  · exact ⟨rfl, rfl⟩
  · exact ⟨rfl, rfl⟩
  · exact presentRouter_quiet flow entries (advertisedUrl host) _

/-- A step that replaces a token has validated it with the URL of the entry it is for. -/
theorem asyncStepReauthConfirm_cases (flow : Flow) (entries : List ConfigEntry)
    (input : Option (String × Replies)) :
    let r := asyncStepReauthConfirm flow entries input
    r.Quiet entries ∨
      ∃ i entry token replies probe, entries[i]? = some entry ∧
        r.validation = some ⟨entry.data.url, token, entry.data.verify, replies⟩ ∧
        (⟨entry.data.url, token, entry.data.verify, replies⟩ : Validation).accepted = some probe ∧
        r.creation = none ∧ r.entries = entries.modify i (.setToken token) := by
  intro r
  have result : r = asyncStepReauthConfirm flow entries input := rfl
  unfold asyncStepReauthConfirm at result
  split at result
  next => exact Or.inl (by rw [result]; exact ⟨rfl, rfl⟩)
  next i entry found =>
    obtain ⟨j, _, named⟩ := Option.bind_eq_some_iff.mp found
    obtain ⟨other, held, same⟩ := Option.map_eq_some_iff.mp named
    obtain ⟨rfl, rfl⟩ := Prod.mk.inj same
    cases input with
    | none => exact Or.inl (by rw [result]; exact ⟨rfl, rfl⟩)
    | some typed =>
        obtain ⟨token, replies⟩ := typed
        obtain ⟨_, quiet, _⟩ | ⟨probe, accepted, ended⟩ := afterValidation_cases
          ⟨other.data.url, token, other.data.verify, replies⟩ flow entries "reauth_confirm"
          fun _ => .make (.ok (.abort "reauth_successful")) flow (entries.modify j (.setToken token))
        · exact Or.inl (by rw [result]; exact quiet)
        · have ended := result.trans ended
          refine Or.inr ⟨j, other, token, replies, probe, held, by rw [ended]; rfl, accepted, ?_⟩
          rw [ended]
          exact ⟨rfl, rfl⟩

end SprHomeAssistant.Integration

import SprHomeAssistant.Integration.Contract

/-! The service that wakes a device.

The routers that know the device are asked in turn, or all routers when none knows it, until
one answers. A router's error is kept for the message, unless it is none of the client's.
-/

set_option autoImplicit false

namespace SprHomeAssistant.Integration

/-- A loaded entry, and the reply that its router gives to the request for the packet. Its
first refresh succeeded, so its data are there. -/
structure LoadedEntry where
  api : SprApiClient
  coordinator : SprCoordinator
  reply : Reply

def LoadedEntry.knows (entry : LoadedEntry) (mac : String) : Bool :=
  (entry.coordinator.devices.lookup mac).isSome

/-- What the service raises: `HomeAssistantError`, or what it did not catch. -/
inductive WakeError where
  | homeAssistantError (message : String)
  | uncaught (err : PyError)
  deriving DecidableEq

structure Woken where
  asked : List Request
  outcome : Except WakeError Unit

def Woken.after (woken : Woken) (request : Request) : Woken :=
  { woken with asked := request :: woken.asked }

/-- The loop over the candidates, with the errors so far. -/
def wakeFirst (mac : String) : List LoadedEntry → List String → Woken
  | [], errors => ⟨[], .error (.homeAssistantError ("Wake on LAN failed: " ++ "; ".intercalate errors))⟩
  | entry :: rest, errors =>
      let request := entry.api.wakeRequest mac
      match SprApiClient.get entry.reply with
      | .ok _ => ⟨[request], .ok ()⟩
      | .error (.sprAuthError message) | .error (.sprApiError message) =>
          (wakeFirst mac rest (errors ++ [message])).after request
      | .error err => ⟨[request], .error (.uncaught err)⟩

/-- `owning or entries`. -/
def candidates (entries : List LoadedEntry) (mac : String) : List LoadedEntry :=
  let owning := entries.filter fun entry => entry.knows mac
  if owning.isEmpty then entries else owning

/-- `handle_wake`, for the text of the call. -/
def handleWake (ha : HomeAssistant) (entries : List LoadedEntry) (text : String) : Woken :=
  let mac := ha.formatMac text
  if entries.isEmpty then ⟨[], .error (.homeAssistantError "No SPR router is configured")⟩
  else wakeFirst mac (candidates entries mac) []

/-- Every candidate is asked until one answers, and the call fails only when none did. -/
structure TriesEach (mac : String) (candidates : List LoadedEntry) (woken : Woken) : Prop where
  asked : woken.asked =
    (candidates.take (candidates.findIdx (fun entry => answers entry.reply) + 1)).map
      fun entry => entry.api.wakeRequest mac
  raises : ∀ err, woken.outcome = .error err → ∀ entry ∈ candidates, answers entry.reply = false

theorem mem_of_mem_candidates {entries : List LoadedEntry} {mac : String} {entry : LoadedEntry}
    (member : entry ∈ candidates entries mac) : entry ∈ entries := by
  simp only [candidates] at member
  split at member
  · exact member
  · exact List.mem_of_mem_filter member

theorem wakeFirst_answered {mac : String} {entry : LoadedEntry} {rest : List LoadedEntry}
    {errors : List String} {document : Json} (called : SprApiClient.get entry.reply = .ok document) :
    wakeFirst mac (entry :: rest) errors = ⟨[entry.api.wakeRequest mac], .ok ()⟩ := by
  rw [wakeFirst, called]

theorem wakeFirst_failed {entry : LoadedEntry} {err : PyError} (own : IsSprApiError err)
    (called : SprApiClient.get entry.reply = .error err) (mac : String) (rest : List LoadedEntry)
    (errors : List String) :
    ∃ message, wakeFirst mac (entry :: rest) errors =
      (wakeFirst mac rest (errors ++ [message])).after (entry.api.wakeRequest mac) := by
  cases own with
  | api message => exact ⟨message, by rw [wakeFirst, called]⟩
  | auth message => exact ⟨message, by rw [wakeFirst, called]⟩

theorem wakeFirst_leaked {mac : String} {entry : LoadedEntry} {rest : List LoadedEntry}
    {errors : List String} {err : PyError} (foreign : ¬ IsSprApiError err)
    (called : SprApiClient.get entry.reply = .error err) :
    wakeFirst mac (entry :: rest) errors = ⟨[entry.api.wakeRequest mac], .error (.uncaught err)⟩ := by
  rw [wakeFirst, called]
  cases err with
  | sprApiError message => exact absurd (.api message) foreign
  | sprAuthError message => exact absurd (.auth message) foreign
  | _ => rfl

theorem triesEach_cons {mac : String} {entry : LoadedEntry} {rest : List LoadedEntry}
    (silent : answers entry.reply = false) (woken : Woken) :
    TriesEach mac (entry :: rest) (woken.after (entry.api.wakeRequest mac)) ↔ TriesEach mac rest woken := by
  constructor
  · intro tries
    refine ⟨?_, fun err raised other member => tries.raises err raised other (List.mem_cons_of_mem _ member)⟩
    have asked := tries.asked
    simpa [Woken.after, List.findIdx_cons, silent] using asked
  · intro tries
    refine ⟨?_, fun err raised => List.forall_mem_cons.mpr ⟨silent, tries.raises err raised⟩⟩
    simp [Woken.after, List.findIdx_cons, silent, tries.asked]

/-- The candidates whose failure another candidate has to make up for. -/
def followed (entries : List LoadedEntry) : List LoadedEntry :=
  entries.dropLast.takeWhile fun entry => !answers entry.reply

theorem followed_answered {entry : LoadedEntry} (answered : answers entry.reply = true)
    (rest : List LoadedEntry) : followed (entry :: rest) = [] := by
  cases rest with
  | nil => rfl
  | cons next rest =>
      rw [followed, List.dropLast_cons_cons, List.takeWhile_cons_of_neg (by simp [answered])]

theorem followed_silent {entry next : LoadedEntry} (silent : answers entry.reply = false)
    (rest : List LoadedEntry) : followed (entry :: next :: rest) = entry :: followed (next :: rest) := by
  rw [followed, List.dropLast_cons_cons, List.takeWhile_cons_of_pos (by simp [silent]), followed]

theorem wakeFirst_failed_iff {mac : String} {entry : LoadedEntry} {rest : List LoadedEntry}
    {err : PyError} (own : IsSprApiError err) (called : SprApiClient.get entry.reply = .error err)
    (readable : Readable entry.reply) (silent : answers entry.reply = false)
    (ih : ∀ errors, TriesEach mac rest (wakeFirst mac rest errors) ↔
      ∀ candidate ∈ followed rest, Readable candidate.reply) (errors : List String) :
    TriesEach mac (entry :: rest) (wakeFirst mac (entry :: rest) errors) ↔
      ∀ candidate ∈ followed (entry :: rest), Readable candidate.reply := by
  obtain ⟨message, stepped⟩ := wakeFirst_failed own called mac rest errors
  rw [stepped, triesEach_cons silent, ih]
  cases rest with
  | nil => exact Iff.rfl
  | cons next rest => rw [followed_silent silent, List.forall_mem_cons, and_iff_right readable]

/-- The loop goes on exactly when each failed candidate but the last has a body to read. -/
theorem wakeFirst_triesEach_iff (mac : String) {entries : List LoadedEntry}
    (outcomes : ∀ entry ∈ entries, HttpOutcome entry.reply) (errors : List String) :
    TriesEach mac entries (wakeFirst mac entries errors) ↔
      ∀ entry ∈ followed entries, Readable entry.reply := by
  induction entries generalizing errors with
  | nil => exact iff_of_true ⟨rfl, by simp⟩ (by simp [followed])
  | cons entry rest ih =>
      obtain ⟨own, others⟩ := List.forall_mem_cons.mp outcomes
      have ends := get_ends own
      generalize called : SprApiClient.get entry.reply = result at ends
      cases ends with
      | answered readable answered =>
          rw [wakeFirst_answered called, followed_answered answered]
          refine iff_of_true ⟨?_, fun err raised => by cases raised⟩ (by simp)
          simp [List.findIdx_cons, answered]
      | rejected readable silent => exact wakeFirst_failed_iff (.auth _) called readable silent (ih others) errors
      | refused readable silent => exact wakeFirst_failed_iff (.api _) called readable silent (ih others) errors
      | leaked unreadable silent foreign =>
          rw [wakeFirst_leaked foreign called]
          cases rest with
          | nil =>
              refine iff_of_true ⟨?_, fun err raised => by simpa using silent⟩ (by simp [followed])
              simp [List.findIdx_cons, silent]
          | cons next rest =>
              rw [followed_silent silent]
              refine iff_of_false (fun tries => ?_) fun needed => unreadable (needed entry List.mem_cons_self)
              have asked := congrArg List.length tries.asked
              simp [List.findIdx_cons, silent] at asked

/-! ## All callers -/

/-- A call, a validation and the service keep what they promise exactly when the bodies are
there that they read. -/
theorem callers_settle_iff {reply : Reply} (outcome : HttpOutcome reply)
    {v : Validation} (probe : HttpOutcome v.replies.probe) (state : HttpOutcome v.replies.state)
    {entries : List LoadedEntry} (outcomes : ∀ entry ∈ entries, HttpOutcome entry.reply)
    (ha : HomeAssistant) (text : String) :
    (KeepsContract reply ↔ Readable reply) ∧
    ((∃ errors info, v.outcome = .ok (errors, info)) ↔
      Readable v.replies.probe ∧ (answers v.replies.probe = true → Readable v.replies.state)) ∧
    (TriesEach (ha.formatMac text) (candidates entries (ha.formatMac text)) (handleWake ha entries text) ↔
      ∀ entry ∈ followed (candidates entries (ha.formatMac text)), Readable entry.reply) := by
  refine ⟨keepsContract_iff outcome, outcome_returns_iff probe state, ?_⟩
  unfold handleWake
  cases entries with
  | nil => exact iff_of_true ⟨rfl, by simp [candidates]⟩ (by simp [candidates, followed])
  | cons entry rest =>
      refine wakeFirst_triesEach_iff (ha.formatMac text) (fun candidate member => ?_) []
      exact outcomes candidate (mem_of_mem_candidates member)

/-- A page that a proxy gives in place of the plugin's answer. -/
def page (status : Nat) : Reply :=
  .ok ⟨status, false, .ok ⟨.ok "<html>", .error (.valueError "Expecting value")⟩⟩

theorem page_outcome (status : Nat) : HttpOutcome (page status) := by
  refine ⟨by simp [page], ?_, ?_⟩
  · rintro _ err ⟨rfl⟩ read
    cases read
  · rintro _ err ⟨rfl⟩ ⟨rfl⟩
    rintro ⟨⟩

theorem jsonReply_outcome (text : String) (document : Json) : HttpOutcome (jsonReply text document) := by
  refine ⟨by simp [jsonReply], ?_, ?_⟩
  · rintro _ err ⟨rfl⟩ read
    cases read
  · rintro _ err ⟨rfl⟩ read
    cases read

/-- Two routers that know no device, the first behind a proxy that gives a page. -/
def behindProxy (status : Nat) : List LoadedEntry :=
  [⟨.make false "https://10.0.0.1" "t", .initial, page status⟩,
    ⟨.make false "https://10.0.0.2" "t", .initial, jsonReply "\x7b\x7d" (.obj [])⟩]

theorem behindProxy_outcomes (status : Nat) : ∀ entry ∈ behindProxy status, HttpOutcome entry.reply := by
  simpa [behindProxy] using ⟨page_outcome status, jsonReply_outcome _ _⟩

theorem behindProxy_candidates (status : Nat) (mac : String) :
    candidates (behindProxy status) mac = behindProxy status := rfl

theorem page_refused : Readable (page 502) := by
  refine .of_response (fun accepted => ?_) fun _ _ _ => ⟨"<html>", rfl⟩
  exact absurd accepted (by decide : ¬ 502 < 400)

theorem callers_settle_refusal :
    KeepsContract (page 502) ∧
      (∃ errors info, (Validation.mk "https://10.0.0.1" "t" false ⟨page 502, page 502⟩).outcome =
        .ok (errors, info)) ∧
      TriesEach (HomeAssistant.documented.formatMac "aabbccddee01")
        (candidates (behindProxy 502) (HomeAssistant.documented.formatMac "aabbccddee01"))
        (handleWake .documented (behindProxy 502) "aabbccddee01") := by
  obtain ⟨call, validation, service⟩ := callers_settle_iff (page_outcome 502)
    (v := ⟨"https://10.0.0.1", "t", false, ⟨page 502, page 502⟩⟩) (page_outcome 502) (page_outcome 502)
    (behindProxy_outcomes 502) .documented "aabbccddee01"
  refine ⟨call.mpr page_refused, validation.mpr ⟨page_refused, fun _ => page_refused⟩, service.mpr ?_⟩
  rw [behindProxy_candidates, behindProxy, followed_silent rfl]
  simpa [followed] using page_refused

/-- A page with status 200 leaves a call, a validation and the service with an exception that
is none of the client's. -/
theorem page_leaks :
    (¬ ∀ reply, HttpOutcome reply → KeepsContract reply) ∧
    (¬ ∀ v : Validation, HttpOutcome v.replies.probe → HttpOutcome v.replies.state →
      ∃ errors info, v.outcome = .ok (errors, info)) ∧
    ¬ ∀ (ha : HomeAssistant) (entries : List LoadedEntry) (text : String),
      (∀ entry ∈ entries, HttpOutcome entry.reply) →
        TriesEach (ha.formatMac text) (candidates entries (ha.formatMac text)) (handleWake ha entries text) := by
  have called : SprApiClient.get (page 200) = .error (.clientError "unexpected mimetype") := rfl
  have foreign : ¬ IsSprApiError (.clientError "unexpected mimetype") := by rintro ⟨⟩
  refine ⟨fun all => ?_, fun all => ?_, fun all => ?_⟩
  · exact foreign ((all (page 200) (page_outcome 200)).raises _ called)
  · obtain ⟨errors, info, returned⟩ :=
      all ⟨"https://10.0.0.1", "t", false, ⟨page 200, page 200⟩⟩ (page_outcome 200) (page_outcome 200)
    rw [outcome_raises foreign (Or.inl called)] at returned
    cases returned
  · have tries := all .documented (behindProxy 200) "aa:bb:cc:dd:ee:01" (behindProxy_outcomes 200)
    have asked := congrArg List.length tries.asked
    rw [behindProxy_candidates, List.length_map] at asked
    cases asked

end SprHomeAssistant.Integration

import SprHomeAssistant.Integration.ConfigFlow

/-! What the callers of the client rely on.

A call returns the document of a response below status 400 or raises an `SprApiError`. The
request itself is guarded; reading the body and decoding it are not.
-/

set_option autoImplicit false

namespace SprHomeAssistant.Integration

/-- An instance of `SprApiError`, of which `SprAuthError` is a subclass. -/
inductive IsSprApiError : PyError → Prop where
  | api (message : String) : IsSprApiError (.sprApiError message)
  | auth (message : String) : IsSprApiError (.sprAuthError message)

/-- What may come back for a request: a transport error or timeout while connecting, or a
response whose body may not be read or decoded. None of it raises the client's own errors. -/
structure HttpOutcome (reply : Reply) : Prop where
  connecting : ∀ err, reply = .error err → ∃ message, err.transport = some message
  text : ∀ resp err, reply = .ok resp → resp.text = .error err → ¬ IsSprApiError err
  json : ∀ resp err, reply = .ok resp → resp.json = .error err → ¬ IsSprApiError err

def rejectsToken (reply : Reply) : Prop :=
  ∃ resp, reply = .ok resp ∧ (resp.status = 401 ∨ resp.status = 403)

structure KeepsContract (reply : Reply) : Prop where
  returns : ∀ document, SprApiClient.get reply = .ok document →
    ∃ resp, reply = .ok resp ∧ resp.status < 400 ∧ resp.jsonAnyType = .ok document
  raises : ∀ err, SprApiClient.get reply = .error err → IsSprApiError err
  rejected : (∃ message, SprApiClient.get reply = .error (.sprAuthError message)) ↔ rejectsToken reply

/-- The body can be read where the client reads it: as a JSON document of its type below
status 400, and as a text in an error other than a rejection. -/
structure Readable (reply : Reply) : Prop where
  json : ∀ resp, reply = .ok resp → resp.status < 400 → ∃ document, resp.json = .ok document
  text : ∀ resp, reply = .ok resp → 400 ≤ resp.status → resp.status ≠ 401 → resp.status ≠ 403 →
    ∃ body, resp.text = .ok body

/-- The reply is a JSON document below status 400. -/
def answers (reply : Reply) : Bool :=
  match reply with
  | .ok resp => resp.status < 400 && resp.json.isOk
  | .error _ => false

/-! ## One call -/

/-- The ways a call ends, with what its reply was. -/
inductive CallEnds (reply : Reply) : Except PyError Json → Prop where
  | answered {document : Json} (readable : Readable reply) (answered : answers reply = true)
      (kept : ¬ rejectsToken reply)
      (source : ∃ resp, reply = .ok resp ∧ resp.status < 400 ∧ resp.jsonAnyType = .ok document) :
      CallEnds reply (.ok document)
  | rejected {message : String} (readable : Readable reply) (silent : answers reply = false)
      (rejected : rejectsToken reply) : CallEnds reply (.error (.sprAuthError message))
  | refused {message : String} (readable : Readable reply) (silent : answers reply = false)
      (kept : ¬ rejectsToken reply) : CallEnds reply (.error (.sprApiError message))
  | leaked {err : PyError} (unreadable : ¬ Readable reply) (silent : answers reply = false)
      (foreign : ¬ IsSprApiError err) : CallEnds reply (.error err)

theorem Readable.of_response {resp : Response}
    (json : resp.status < 400 → ∃ document, resp.json = .ok document)
    (text : 400 ≤ resp.status → resp.status ≠ 401 → resp.status ≠ 403 → ∃ body, resp.text = .ok body) :
    Readable (.ok resp) := by
  refine ⟨?_, ?_⟩
  · rintro _ ⟨rfl⟩
    exact json
  · rintro _ ⟨rfl⟩
    exact text

theorem not_answers {resp : Response} (refused : 400 ≤ resp.status) : answers (.ok resp) = false := by
  simp [answers, Nat.not_lt.mpr refused]

theorem json_eq_jsonAnyType {resp : Response} {document : Json} (read : resp.json = .ok document) :
    resp.jsonAnyType = .ok document := by
  obtain ⟨status, jsonType, body⟩ := resp
  cases body with
  | error err => cases read
  | ok body =>
      cases jsonType with
      | false => cases read
      | true => exact read

theorem get_connecting {err : PyError} (outcome : HttpOutcome (.error err)) :
    CallEnds (.error err) (SprApiClient.get (.error err)) := by
  obtain ⟨message, transport⟩ := outcome.connecting err rfl
  simp only [SprApiClient.get, transport]
  exact .refused ⟨by simp, by simp⟩ rfl (by simp [rejectsToken])

theorem get_rejected {resp : Response} (rejected : resp.status = 401 ∨ resp.status = 403) :
    CallEnds (.ok resp) (SprApiClient.get (.ok resp)) := by
  have called : SprApiClient.get (.ok resp) = .error (.sprAuthError "SPR rejected the API token") := by
    simp [SprApiClient.get, rejected]
  rw [called]
  refine .rejected (.of_response ?_ ?_) (not_answers (by omega)) ⟨resp, rfl, rejected⟩
  · intro accepted
    omega
  · intro _ other another
    omega

theorem get_refused {resp : Response} (outcome : HttpOutcome (.ok resp))
    (kept : ¬ (resp.status = 401 ∨ resp.status = 403)) (refused : 400 ≤ resp.status) :
    CallEnds (.ok resp) (SprApiClient.get (.ok resp)) := by
  have silent := not_answers refused
  have unrejected : ¬ rejectsToken (.ok resp) := by
    rintro ⟨_, ⟨rfl⟩, status⟩
    exact kept status
  cases read : resp.text with
  | ok body =>
      have called : SprApiClient.get (.ok resp) = .error (.sprApiError
          ("SPR API error " ++ toString resp.status ++ ": " ++ excerpt body)) := by
        simp [SprApiClient.get, kept, refused, read]
        rfl
      rw [called]
      refine .refused (.of_response ?_ fun _ _ _ => ⟨body, read⟩) silent unrejected
      intro accepted
      omega
  | error err =>
      have called : SprApiClient.get (.ok resp) = .error err := by
        simp [SprApiClient.get, kept, refused, read]
        rfl
      rw [called]
      refine .leaked ?_ silent (outcome.text resp err rfl read)
      intro readable
      obtain ⟨body, parsed⟩ := readable.text resp rfl refused (fun own => kept (Or.inl own))
        fun own => kept (Or.inr own)
      rw [read] at parsed
      cases parsed

theorem get_accepted {resp : Response} (outcome : HttpOutcome (.ok resp)) (accepted : resp.status < 400) :
    CallEnds (.ok resp) (SprApiClient.get (.ok resp)) := by
  have kept : ¬ (resp.status = 401 ∨ resp.status = 403) := by omega
  have called : SprApiClient.get (.ok resp) = resp.json := by
    simp [SprApiClient.get, kept, Nat.not_le.mpr accepted]
  rw [called]
  cases read : resp.json with
  | ok document =>
      refine .answered (.of_response (fun _ => ⟨document, read⟩) ?_) ?_ ?_
        ⟨resp, rfl, accepted, json_eq_jsonAnyType read⟩
      · intro refused
        omega
      · simp [answers, accepted, read, Except.isOk, Except.toBool]
      · rintro ⟨_, ⟨rfl⟩, status⟩
        exact kept status
  | error err =>
      refine .leaked ?_ ?_ (outcome.json resp err rfl read)
      · intro readable
        obtain ⟨document, parsed⟩ := readable.json resp rfl accepted
        rw [read] at parsed
        cases parsed
      · simp [answers, read, Except.isOk, Except.toBool]

theorem get_ends {reply : Reply} (outcome : HttpOutcome reply) :
    CallEnds reply (SprApiClient.get reply) := by
  cases reply with
  | error err => exact get_connecting outcome
  | ok resp =>
      by_cases rejected : resp.status = 401 ∨ resp.status = 403
      · exact get_rejected rejected
      · rcases Nat.lt_or_ge resp.status 400 with accepted | refused
        · exact get_accepted outcome accepted
        · exact get_refused outcome rejected refused

/-- A call keeps the contract exactly when the body is there where it is read. -/
theorem keepsContract_iff {reply : Reply} (outcome : HttpOutcome reply) :
    KeepsContract reply ↔ Readable reply := by
  have ends := get_ends outcome
  generalize called : SprApiClient.get reply = result at ends
  cases ends with
  | answered readable answered kept source =>
      refine iff_of_true ⟨?_, ?_, ?_⟩ readable
      · intro document returned
        obtain rfl := Except.ok.inj (called.symm.trans returned)
        exact source
      · intro err raised
        cases called.symm.trans raised
      · refine iff_of_false ?_ kept
        rintro ⟨message, raised⟩
        cases called.symm.trans raised
  | rejected readable silent rejected =>
      refine iff_of_true ⟨?_, ?_, iff_of_true ⟨_, called⟩ rejected⟩ readable
      · intro document returned
        cases called.symm.trans returned
      · intro err raised
        obtain rfl := Except.error.inj (called.symm.trans raised)
        exact .auth _
  | refused readable silent kept =>
      refine iff_of_true ⟨?_, ?_, ?_⟩ readable
      · intro document returned
        cases called.symm.trans returned
      · intro err raised
        obtain rfl := Except.error.inj (called.symm.trans raised)
        exact .api _
      · refine iff_of_false ?_ kept
        rintro ⟨message, raised⟩
        cases called.symm.trans raised
  | leaked unreadable silent foreign =>
      exact iff_of_false (fun contract => foreign (contract.raises _ called)) unreadable

/-! ## A validation -/

/-- An error that is none of the client's passes through the handlers. -/
theorem outcome_raises {v : Validation} {err : PyError} (foreign : ¬ IsSprApiError err)
    (raised : SprApiClient.get v.replies.probe = .error err ∨
      (SprApiClient.get v.replies.probe).isOk ∧ SprApiClient.get v.replies.state = .error err) :
    v.outcome = .error err := by
  unfold Validation.outcome
  generalize SprApiClient.get v.replies.probe = probed at raised
  generalize SprApiClient.get v.replies.state = stated at raised
  cases err with
  | sprApiError message => exact absurd (.api message) foreign
  | sprAuthError message => exact absurd (.auth message) foreign
  | _ =>
      obtain rfl | ⟨answered, rfl⟩ := raised
      · rfl
      · cases probed with
        | ok probe => rfl
        | error err => cases answered

/-- A validation returns exactly when the bodies are there of the replies that it reads. -/
theorem outcome_returns_iff {v : Validation} (probe : HttpOutcome v.replies.probe)
    (state : HttpOutcome v.replies.state) :
    (∃ errors info, v.outcome = .ok (errors, info)) ↔
      Readable v.replies.probe ∧ (answers v.replies.probe = true → Readable v.replies.state) := by
  have probed := get_ends probe
  have stated := get_ends state
  generalize first : SprApiClient.get v.replies.probe = firstResult at probed
  generalize second : SprApiClient.get v.replies.state = secondResult at stated
  cases probed with
  | answered readable answered =>
      cases stated with
      | answered other =>
          exact iff_of_true ⟨_, _, by rw [Validation.outcome, first, second]; rfl⟩ ⟨readable, fun _ => other⟩
      | rejected other =>
          exact iff_of_true ⟨_, _, by rw [Validation.outcome, first, second]; rfl⟩ ⟨readable, fun _ => other⟩
      | refused other =>
          exact iff_of_true ⟨_, _, by rw [Validation.outcome, first, second]; rfl⟩ ⟨readable, fun _ => other⟩
      | leaked unreadable silent foreign =>
          have leaks := outcome_raises foreign (Or.inr ⟨by rw [first]; rfl, second⟩)
          exact iff_of_false (by simp [leaks]) fun needed => unreadable (needed.2 answered)
  | rejected readable silent =>
      exact iff_of_true ⟨_, _, by rw [Validation.outcome, first]; rfl⟩ ⟨readable, by simp [silent]⟩
  | refused readable silent =>
      exact iff_of_true ⟨_, _, by rw [Validation.outcome, first]; rfl⟩ ⟨readable, by simp [silent]⟩
  | leaked unreadable silent foreign =>
      have leaks := outcome_raises foreign (Or.inl first)
      exact iff_of_false (by simp [leaks]) fun needed => unreadable needed.1

end SprHomeAssistant.Integration

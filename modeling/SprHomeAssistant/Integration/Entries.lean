import SprHomeAssistant.Integration.Effects

/-! What the config entries hold, over runs of flow steps.

A validation has tried out the URL, the token and `verify_ssl` of an entry together,
except after a user step that meets a router it knows: that step writes the new URL and
leaves the old token beside it.
-/

set_option autoImplicit false

namespace SprHomeAssistant.Integration
open Library.Runs

def ConfigEntry.triple (entry : ConfigEntry) : String × String × Bool :=
  (entry.data.url, entry.data.token, entry.data.verify)

/-- Every entry holds a URL, a token and a `verify_ssl` that a validation tried together and
without errors. -/
def EntriesValidated (h : Hub) : Prop := ∀ entry ∈ h.entries, entry.triple ∈ h.ledger.validated

/-- An entry that is moved to a new URL has a token and a `verify_ssl` that were validated
with that URL, before or just now. -/
def RelocationsValidated (h : Hub) (move : Move) : Prop :=
  ∀ v i entry, h.Relocates move v i → h.entries[i]? = some entry →
    (v.url, entry.data.token, entry.data.verify) ∈ h.ledger.validated ++ [v.triple]

theorem step_entriesValidated {h : Hub} {move : Move} (valid : EntriesValidated h)
    (relocations : RelocationsValidated h move) : EntriesValidated (h.step move) := by
  obtain ⟨validated, created, ledger, _, effect⟩ := step_affected h move
  unfold EntriesValidated
  rw [ledger]
  have old : ∀ entry ∈ h.entries, entry.triple ∈ h.ledger.validated ++ validated :=
    fun entry member => List.mem_append_left _ (valid entry member)
  generalize (h.step move).entries = after at effect
  cases effect with
  | none => exact old
  | create uniqueId id title v identifies typed =>
      intro entry member
      rcases List.mem_append.mp member with held | new
      · exact old entry held
      · rw [List.mem_singleton.mp new]
        exact List.mem_append_right _ (List.mem_singleton.mpr rfl)
  -- the one effect that does not bring a validation of the whole triple
  | relocate v i relocates typed =>
      intro entry member
      rcases mem_modify member with held | ⟨before, found, rfl⟩
      · exact old entry held
      · exact relocations v i before relocates found
  | retoken i before token found =>
      intro entry member
      rcases mem_modify member with held | ⟨before', found', rfl⟩
      · exact old entry held
      · rw [found, Option.some.injEq] at found'
        subst found'
        exact List.mem_append_right _ (List.mem_singleton.mpr rfl)

theorem relocations_of_entriesValidated {h : Hub} {move : Move} (valid : EntriesValidated (h.step move)) :
    RelocationsValidated h move := by
  rintro v i entry ⟨names, flow, f, input, replies, rfl, progress, shape⟩ found
  obtain ⟨tried, none, moved⟩ := asyncStepUser_names f h.entries input replies shape names
  obtain ⟨probe, id, accepted, _⟩ := names
  have after : h.step (.user flow (some (input, replies))) = h.conclude flow
      (typedUrls (some (input, replies))) (asyncStepUser f h.entries (some (input, replies))) := by
    simp only [Hub.step, Hub.onFlow, progress]
  rw [after] at valid
  have relocated : (entry.setUrl v.url) ∈ (h.conclude flow (typedUrls (some (input, replies)))
      (asyncStepUser f h.entries (some (input, replies)))).entries := by
    refine List.mem_append_left _ (List.mem_of_getElem? (i := i) ?_)
    rw [moved, List.getElem?_modify_eq, found]
    rfl
  have validated := valid _ relocated
  rwa [conclude_validated, validated_of_accepted tried accepted] at validated

/-- Over runs from no entries: what the entries hold was validated as a whole, exactly when
every user step that moves an entry finds the rest of it validated with the new URL. -/
theorem run_entriesValidated_iff (moves : List Move) :
    (∀ t ∈ transitions Hub.step (.start []) moves, EntriesValidated t.after) ↔
      ∀ t ∈ transitions Hub.step (.start []) moves, RelocationsValidated t.before t.action := by
  constructor
  · intro valid t member
    have after := valid t member
    rw [transition_after member] at after
    exact relocations_of_entriesValidated after
  · intro relocations t member
    have initial : EntriesValidated (.start []) := by simp [EntriesValidated, Hub.start]
    obtain ⟨_, along⟩ := invariant_of_allowed EntriesValidated RelocationsValidated
      (fun _ _ => step_entriesValidated) initial relocations
    exact (along t member).2

/-- A router is added, and added again under another URL with another token. -/
def addedTwice : List Move :=
  [.startFlow none, .user 0 (some (⟨"https://192.0.2.1", "first", false⟩, routerReplies "spr")),
    .startFlow none, .user 1 (some (⟨"https://192.0.2.2", "second", false⟩, routerReplies "spr"))]

/-- The entry is left with the second URL and the first token. -/
theorem addedTwice_mixes_credentials :
    ¬ ∀ moves, ∀ t ∈ transitions Hub.step (.start []) moves, EntriesValidated t.after := by
  intro all
  have valid := all addedTwice _ (last_mem_transitions (Hub.start []) (addedTwice.take 3)
    (.user 1 (some (⟨"https://192.0.2.2", "second", false⟩, routerReplies "spr"))))
  have mixed : ("https://192.0.2.2", "first", false) ∈
      (run Hub.step (.start []) addedTwice).entries.map ConfigEntry.triple := by decide +kernel
  have untried : ("https://192.0.2.2", "first", false) ∉
      (run Hub.step (.start []) addedTwice).ledger.validated := by decide +kernel
  obtain ⟨entry, member, same⟩ := List.mem_map.mp mixed
  exact untried (same ▸ valid entry member)

end SprHomeAssistant.Integration

import SprHomeAssistant.Integration.Entities
import SprHomeAssistant.Integration.History

/-! What a poll that raises leaves behind.

The device loop changes the shared dict as it goes. An exception keeps what it had done,
skips the removals and sends no signal; a device inserted before it is known to the next
poll, and so never new.
-/

set_option autoImplicit false

namespace SprHomeAssistant.Integration
open Go Library.Runs

/-- The MACs that a poll sends through `signal_device_new`. -/
def announcedBy (ha : HomeAssistant) (c : SprCoordinator) (poll : Poll) : List String :=
  (asyncUpdateData ha c poll).dispatched.getD []

/-- The first successful poll of these that lists a MAC announces it. -/
def NextAnnounces (ha : HomeAssistant) (mac : String) (c : SprCoordinator) (polls : List Poll) : Prop :=
  ∀ between next rest, polls = between ++ next :: rest →
    (∀ poll ∈ between, ¬ (pollSucceeds ha .initial poll = true ∧ poll.Lists ha mac)) →
    pollSucceeds ha .initial next = true → next.Lists ha mac →
      mac ∈ announcedBy ha (run (SprCoordinator.poll ha) c between) next

/-- A failed poll of a coordinator leaves the dict and its devices as they were, and hides
no device from the polls after it. A coordinator whose first poll failed is given up. -/
structure ChangesNothing (ha : HomeAssistant) (c : SprCoordinator) (failed : Poll) (later : List Poll) :
    Prop where
  devices : ∀ mac, (c.poll ha failed).devices.lookup mac = c.devices.lookup mac
  announced : c.data.isSome = true → ∀ mac, mac ∉ c.devices → failed.Lists ha mac →
    NextAnnounces ha mac (c.poll ha failed) later

def Atomic (ha : HomeAssistant) (c : SprCoordinator) (polls : List Poll) : Prop :=
  ∀ earlier failed later, polls = earlier ++ failed :: later →
    pollSucceeds ha .initial failed = false →
      ChangesNothing ha (run (SprCoordinator.poll ha) c earlier) failed later

/-- Before any entry that raises for its MAC, the response has one with a MAC to keep. -/
def Reaches (ha : HomeAssistant) (poll : Poll) : Prop :=
  ∃ passed rawDev rest mac, poll.entries = passed ++ rawDev :: rest ∧
    (∀ entry ∈ passed, rawMac ha entry = .ok none) ∧ rawMac ha rawDev = .ok (some mac)

/-- The poll returns data, or it raises before it has reached a device. -/
def Harmless (ha : HomeAssistant) (poll : Poll) : Prop :=
  pollSucceeds ha .initial poll = true ∨ ¬ Reaches ha poll

/-! ## One poll -/

theorem pollEntries_passed {ha : HomeAssistant} {now considerHome : Int} {acc : Polling} {passed : List Json}
    (skipped : ∀ entry ∈ passed, rawMac ha entry = .ok none) (rest : List Json) :
    pollEntries ha now considerHome acc (passed ++ rest) = pollEntries ha now considerHome acc rest := by
  induction passed with
  | nil => rfl
  | cons entry passed ih =>
      have first : pollEntry ha now considerHome acc entry = (acc, none) := by
        simp [pollEntry, skipped entry List.mem_cons_self]
      rw [List.cons_append, pollEntries, first]
      exact ih fun later member => skipped later (List.mem_cons_of_mem _ member)

/-- Entries that are passed over come first; then one stops the loop or names a device. -/
theorem pollEntries_unreached {ha : HomeAssistant} {now considerHome : Int} {acc : Polling}
    {entries : List Json}
    (unreached : ¬ ∃ passed rawDev rest mac, entries = passed ++ rawDev :: rest ∧
      (∀ entry ∈ passed, rawMac ha entry = .ok none) ∧ rawMac ha rawDev = .ok (some mac)) :
    (pollEntries ha now considerHome acc entries).1 = acc := by
  induction entries with
  | nil => rfl
  | cons rawDev rest ih =>
      cases named : rawMac ha rawDev with
      | error err => simp [pollEntries, pollEntry, named]
      | ok found =>
          cases found with
          | some mac => exact absurd ⟨[], rawDev, rest, mac, rfl, by simp, named⟩ unreached
          | none =>
              have first : pollEntry ha now considerHome acc rawDev = (acc, none) := by
                simp [pollEntry, named]
              rw [pollEntries, first]
              refine ih fun ⟨passed, other, later, mac, split, skipped, kept⟩ => unreached ?_
              refine ⟨rawDev :: passed, other, later, mac, by rw [split]; rfl, ?_, kept⟩
              exact List.forall_mem_cons.mpr ⟨named, skipped⟩

/-- A poll that raises, by how far it came. -/
theorem poll_raised {ha : HomeAssistant} {c : SprCoordinator} {poll : Poll}
    (raises : pollSucceeds ha .initial poll = false) :
    (c.poll ha poll).data = c.data ∧
      ((poll.entries = [] ∧ (c.poll ha poll).devices = c.devices) ∨
        (c.poll ha poll).devices =
          (pollEntries ha poll.now poll.considerHome ⟨c.devices, [], []⟩ poll.entries).1.devices) := by
  rw [pollSucceeds_any ha .initial c] at raises
  unfold pollSucceeds at raises
  unfold SprCoordinator.poll
  unfold asyncUpdateData at raises ⊢
  cases replied : poll.reply with
  | error err => simp [Poll.entries, replied]
  | ok raw =>
      simp only [replied] at raises ⊢
      cases read : rawDevices raw with
      | error err => simp [Poll.entries, replied, read]
      | ok entries =>
          simp only [read] at raises ⊢
          rw [entries_of_replied replied read]
          cases looped : pollEntries ha poll.now poll.considerHome ⟨c.devices, [], []⟩ entries with
          | mk acc ended =>
              cases ended with
              | none => rw [looped] at raises; cases raises
              | some err => exact ⟨rfl, Or.inr rfl⟩

theorem poll_unreached {ha : HomeAssistant} {c : SprCoordinator} {poll : Poll}
    (raises : pollSucceeds ha .initial poll = false) (unreached : ¬ Reaches ha poll) :
    (c.poll ha poll).devices = c.devices := by
  obtain ⟨-, ⟨-, same⟩ | looped⟩ := poll_raised (c := c) raises
  · exact same
  · rw [looped, pollEntries_unreached unreached]

theorem pollEntry_inserts {ha : HomeAssistant} {now considerHome : Int} {acc : Polling} {rawDev : Json}
    {mac : String} (named : rawMac ha rawDev = .ok (some mac)) :
    mac ∈ (pollEntry ha now considerHome acc rawDev).1.devices := by
  simp only [pollEntry, named]
  split <;> exact (AList.mem_insert _).mpr (Or.inl rfl)

/-- A poll that raises after it has reached a device puts one into an empty dict. -/
theorem poll_reached {ha : HomeAssistant} {poll : Poll} (raises : pollSucceeds ha .initial poll = false)
    (reaches : Reaches ha poll) : ∃ mac, mac ∈ (SprCoordinator.initial.poll ha poll).devices := by
  obtain ⟨passed, rawDev, rest, mac, split, skipped, named⟩ := reaches
  refine ⟨mac, ?_⟩
  obtain ⟨-, ⟨none, -⟩ | looped⟩ := poll_raised (c := .initial) raises
  · simp [none] at split
  · rw [looped, split, pollEntries_passed skipped]
    have inserted : mac ∈ (pollEntry ha poll.now poll.considerHome
        ⟨SprCoordinator.initial.devices, [], []⟩ rawDev).1.devices := pollEntry_inserts named
    unfold pollEntries
    split
    next stopped => rwa [stopped] at inserted
    next went =>
      rw [went] at inserted
      exact pollEntries_keeps rest inserted

/-! ## The polls after it -/

theorem lists_of_successful {ha : HomeAssistant} {c : SprCoordinator} {poll : Poll} {mac : String}
    (succeeds : pollSucceeds ha c poll = true) (held : mac ∈ (c.poll ha poll).devices) :
    poll.Lists ha mac := by
  obtain ⟨raw, entries, final, replied, read, finished, devices⟩ := pollSucceeds_cases succeeds
  rw [devices, mem_dropUnseen] at held
  obtain ⟨rawDev, member, named⟩ := ((pollEntries_polled finished).seen mac).mp held.1
  exact ⟨rawDev, raw, entries, replied, read, member, named⟩

theorem poll_without {ha : HomeAssistant} {mac : String} {c : SprCoordinator} {poll : Poll}
    (absent : mac ∉ c.devices) (served : c.data.isSome = true) (harmless : Harmless ha poll)
    (unlisted : ¬ (pollSucceeds ha .initial poll = true ∧ poll.Lists ha mac)) :
    mac ∉ (c.poll ha poll).devices ∧ (c.poll ha poll).data.isSome = true := by
  constructor
  · cases ended : pollSucceeds ha .initial poll with
    | true =>
        have succeeds : pollSucceeds ha c poll = true := by rw [pollSucceeds_any ha c .initial, ended]
        exact fun held => unlisted ⟨ended, lists_of_successful succeeds held⟩
    | false =>
        have unreached := harmless.resolve_left (by simp [ended])
        rwa [poll_unreached ended unreached]
  · by_contra none
    have missing := poll_data (Option.not_isSome_iff_eq_none.mp none)
    simp [missing] at served

/-- While no successful poll lists a device and every failed one is harmless, the dict has
it not, and the data of an earlier poll stays. -/
theorem run_without {ha : HomeAssistant} {mac : String} {polls : List Poll} :
    ∀ {c : SprCoordinator}, mac ∉ c.devices → c.data.isSome = true →
      (∀ poll ∈ polls, Harmless ha poll) →
      (∀ poll ∈ polls, ¬ (pollSucceeds ha .initial poll = true ∧ poll.Lists ha mac)) →
      mac ∉ (run (SprCoordinator.poll ha) c polls).devices ∧
        (run (SprCoordinator.poll ha) c polls).data.isSome = true := by
  induction polls with
  | nil => exact fun absent served _ _ => ⟨absent, served⟩
  | cons poll rest ih =>
      intro c absent served harmless unlisted
      obtain ⟨own, others⟩ := List.forall_mem_cons.mp harmless
      obtain ⟨first, later⟩ := List.forall_mem_cons.mp unlisted
      obtain ⟨next, still⟩ := poll_without absent served own first
      exact ih next still others later

/-- A poll that returns data announces what it lists and the dict had not. -/
theorem announces_new {ha : HomeAssistant} {c : SprCoordinator} {poll : Poll} {mac : String}
    (succeeds : pollSucceeds ha c poll = true) (served : c.data.isSome = true) (absent : mac ∉ c.devices)
    (listed : poll.Lists ha mac) : mac ∈ announcedBy ha c poll := by
  obtain ⟨raw, entries, final, replied, read, looped, devices⟩ := pollSucceeds_cases succeeds
  obtain ⟨device, found, -⟩ := listed_settled succeeds listed
  have held : mac ∈ (c.poll ha poll).devices := AList.lookup_isSome.mp (by simp [found])
  rw [devices, mem_dropUnseen] at held
  have new := (pollEntries_newMacs looped mac held.2).resolve_left absent
  have some : final.newMacs ≠ [] := List.ne_nil_of_mem new
  simpa [announcedBy, asyncUpdateData, replied, read, looped, some, served] using new

theorem harmless_changesNothing {ha : HomeAssistant} {c : SprCoordinator} {failed : Poll} {later : List Poll}
    (raises : pollSucceeds ha .initial failed = false) (unreached : ¬ Reaches ha failed)
    (harmless : ∀ poll ∈ later, Harmless ha poll) : ChangesNothing ha c failed later := by
  have same := poll_unreached (c := c) raises unreached
  refine ⟨fun mac => by rw [same], fun served mac absent _ between next rest split waits succeeds listed => ?_⟩
  have kept : (c.poll ha failed).data.isSome = true := by rwa [(poll_raised raises).1]
  have first : ∀ poll ∈ between, Harmless ha poll :=
    fun poll member => harmless poll (by rw [split]; simp [member])
  obtain ⟨still, data⟩ := run_without (same ▸ absent) kept first waits
  exact announces_new (by rw [pollSucceeds_any ha _ .initial, succeeds]) data still listed

/-- Whatever the state and the order of the polls, those that raise change nothing exactly
when none of them gets as far as a device. -/
theorem raising_polls_atomic_iff (ha : HomeAssistant) (given : Poll → Prop) :
    (∀ c polls, (∀ poll ∈ polls, given poll) → Atomic ha c polls) ↔
      ∀ poll, given poll → Harmless ha poll := by
  constructor
  · intro atomic poll mayCome
    by_contra harm
    obtain ⟨raises, reaches⟩ := not_or.mp harm
    have failed : pollSucceeds ha .initial poll = false := Bool.eq_false_iff.mpr raises
    obtain ⟨mac, held⟩ := poll_reached failed (not_not.mp reaches)
    have nothing := atomic .initial [poll] (by simpa using mayCome) [] poll [] rfl failed
    have before : SprCoordinator.initial.devices.lookup mac = none := AList.lookup_empty mac
    have after := (nothing.devices mac).trans before
    exact absurd held (AList.lookup_eq_none.mp after)
  · rintro harmless c polls mayCome earlier failed later rfl raises
    have unreached := (harmless failed (mayCome failed (by simp))).resolve_left (by simp [raises])
    exact harmless_changesNothing raises unreached fun poll member =>
      harmless poll (mayCome poll (by simp [member]))

/-- A phone joins in a response that a null entry ends. -/
def brokenResponse : Poll := responses [namedPhone "aa:bb:cc:dd:ee:01" "phone", .null]

def wholeResponse : Poll := responses [namedPhone "aa:bb:cc:dd:ee:01" "phone"]

theorem brokenResponse_lists : brokenResponse.Lists .documented "aa:bb:cc:dd:ee:01" :=
  ⟨namedPhone "aa:bb:cc:dd:ee:01" "phone", _, _, rfl, rfl, by simp, names_iff.mp (by decide +kernel)⟩

theorem wholeResponse_lists : wholeResponse.Lists .documented "aa:bb:cc:dd:ee:01" :=
  ⟨namedPhone "aa:bb:cc:dd:ee:01" "phone", _, _, rfl, rfl, by simp, names_iff.mp (by decide +kernel)⟩

/-- The poll that first succeeds with the phone does not announce it any more. -/
theorem null_entry_hides_phone :
    ¬ ∀ (ha : HomeAssistant) (c : SprCoordinator) (polls : List Poll), Atomic ha c polls := by
  intro all
  have nothing := all .documented ⟨∅, some ⟨.obj [], .obj []⟩⟩ [brokenResponse, wholeResponse] [] _ _ rfl
    (by decide +kernel)
  have announced := nothing.announced rfl _ (by simp) brokenResponse_lists [] wholeResponse [] rfl (by simp)
    (by decide +kernel) wholeResponse_lists
  exact absurd announced (by decide +kernel)

end SprHomeAssistant.Integration

import SprHomeAssistant.Integration.Polls

/-! Presence over runs of polls.

A device's stored sighting mixes two clocks: polls store their own time, the router
reports its own. Within a poll every entry of a device raises the sighting or assigns
the poll's time; what is stored is never below a connected poll that came before.
-/

set_option autoImplicit false

namespace SprHomeAssistant.Integration
open Go Library.Runs

/-! ## A stored sighting does not fall below an earlier one -/

/-- The stored sighting of a device is `since` or later. -/
def SeenSince (devices : Map SprDevice) (mac : String) (since : Instant) : Prop :=
  ∃ device seen, devices.lookup mac = some device ∧ device.lastSeen = some seen ∧ since ≤ seen

theorem inGrace_iff {now considerHome seen : Int} :
    inGrace now considerHome (some seen) = true ↔ now - considerHome < seen := by
  simp only [inGrace, decide_eq_true_eq]
  omega

theorem inGrace_of_le {now considerHome since seen : Int} (above : since ≤ seen)
    (near : now - since < considerHome) : inGrace now considerHome (some seen) = true := by
  rw [inGrace_iff]
  omega

theorem laterSighting_ge {held : Option Instant} {since seen : Instant} (reported : Instant)
    (stored : held = some seen) (above : since ≤ seen) :
    ∃ later, laterSighting held reported = some later ∧ since ≤ later := by
  subst stored
  unfold laterSighting
  by_cases behind : seen < reported
  · exact ⟨reported, if_pos behind, Int.le_trans above (Int.le_of_lt behind)⟩
  · exact ⟨seen, if_neg behind, above⟩

theorem laterSighting_cases {held : Option Instant} {reported seen : Instant}
    (stored : laterSighting held reported = some seen) : seen = reported ∨ held = some seen := by
  unfold laterSighting at stored
  split at stored
  · exact Or.inl (Option.some.inj stored).symm
  · split at stored
    · exact Or.inl (Option.some.inj stored).symm
    · exact Or.inr stored

theorem SeenSince.entry {ha : HomeAssistant} {now considerHome : Int} {acc : Polling} {mac : String}
    {since : Instant} (seenSince : SeenSince acc.devices mac since) (before : since ≤ now)
    (rawDev : Json) :
    SeenSince (pollEntry ha now considerHome acc rawDev).1.devices mac since := by
  obtain ⟨device, seen, found, stored, above⟩ := seenSince
  obtain ⟨err, ended⟩ | ⟨_, passed⟩ | ⟨other, lastSeen, _, sighted, settled⟩ | ⟨other, err, _, ended⟩ :=
    pollEntry_cases ha now considerHome acc rawDev
  · rw [ended]
    exact ⟨device, seen, found, stored, above⟩
  · rw [passed]
    exact ⟨device, seen, found, stored, above⟩
  · rw [settled]
    by_cases same : mac = other
    · subst same
      have held : (acc.device mac).lastSeen = some seen := by simp [Polling.device, found, stored]
      -- the entry's own device: the sighting is this poll, stays, or is raised
      have later : ∃ later, lastSeen = some later ∧ since ≤ later := by
        rcases sightedAt_cases sighted with ⟨_, rfl⟩ | ⟨_, rfl⟩ | ⟨_, reported, _, rfl⟩
        · exact ⟨now, rfl, before⟩
        · exact ⟨seen, held, above⟩
        · exact laterSighting_ge reported held above
      obtain ⟨later, rfl, above⟩ := later
      exact ⟨_, later, put_lookup_self _ _ _, rfl, above⟩
    · exact ⟨device, seen, by rw [put_lookup_other _ _ same, found], stored, above⟩
  · rw [ended]
    by_cases same : mac = other
    · subst same
      refine ⟨_, seen, put_lookup_self _ _ _, ?_, above⟩
      simp [Polling.device, found, stored]
    · exact ⟨device, seen, by rw [put_lookup_other _ _ same, found], stored, above⟩

theorem connected_seenSince {ha : HomeAssistant} {now considerHome : Int} {acc : Polling} {mac : String}
    {rawDev : Json} (named : rawMac ha rawDev = .ok (some mac))
    (connected : reportsConnected rawDev = true) :
    SeenSince (pollEntry ha now considerHome acc rawDev).1.devices mac now := by
  have sighted : sightedAt ha now ((acc.device mac).describe rawDev) rawDev = .ok (some now) := by
    rw [sightedAt, describe_rawConnected, connected, if_pos rfl]
  simp only [pollEntry, named, sighted]
  exact ⟨_, now, put_lookup_self _ _ _, rfl, Int.le_refl now⟩

theorem SeenSince.entries {ha : HomeAssistant} {now considerHome : Int} {acc : Polling} {mac : String}
    {since : Instant} (seenSince : SeenSince acc.devices mac since) (before : since ≤ now)
    (entries : List Json) :
    SeenSince (pollEntries ha now considerHome acc entries).1.devices mac since :=
  pollEntries_preserves (P := fun devices => SeenSince devices mac since) entries
    (fun rawDev _ _ seenSince => seenSince.entry before rawDev) seenSince

/-- One connected entry is enough, wherever it stands among the entries. -/
theorem connected_entries_seenSince {ha : HomeAssistant} {now considerHome : Int} {mac : String}
    {rawDev : Json} (named : rawMac ha rawDev = .ok (some mac))
    (connected : reportsConnected rawDev = true) {entries : List Json} (listed : rawDev ∈ entries) :
    ∀ {acc : Polling}, (pollEntries ha now considerHome acc entries).2 = none →
      SeenSince (pollEntries ha now considerHome acc entries).1.devices mac now := by
  induction entries with
  | nil => cases listed
  | cons first rest ih =>
      intro acc finished
      unfold pollEntries at finished ⊢
      split at finished
      next => cases finished
      next passed =>
        rcases List.mem_cons.mp listed with rfl | later
        · have next : SeenSince (pollEntry ha now considerHome acc _).1.devices mac now :=
            connected_seenSince named connected
          rw [passed] at next
          exact next.entries (Int.le_refl now) rest
        · exact ih later finished

theorem SeenSince.of_lookup {devices kept : Map SprDevice} {mac : String} {since : Instant}
    (seenSince : SeenSince devices mac since) (same : kept.lookup mac = devices.lookup mac) :
    SeenSince kept mac since := by
  obtain ⟨device, seen, found, stored, above⟩ := seenSince
  exact ⟨device, seen, same.trans found, stored, above⟩

theorem SeenSince.poll {ha : HomeAssistant} {c : SprCoordinator} {poll : Poll} {mac : String}
    {since : Instant} (seenSince : SeenSince c.devices mac since) (before : since ≤ poll.now)
    (succeeds : pollSucceeds ha c poll = true) (listed : poll.Lists ha mac) :
    SeenSince (c.poll ha poll).devices mac since := by
  obtain ⟨raw, entries, final, replied, read, finished, devices⟩ := pollSucceeds_cases succeeds
  have looped : SeenSince (pollEntries ha poll.now poll.considerHome ⟨c.devices, [], []⟩ entries).1.devices
      mac since :=
    SeenSince.entries (by exact seenSince) before entries
  rw [finished] at looped
  rw [devices]
  exact looped.of_lookup (listed_lookup replied read finished listed).2

theorem connects_seenSince {ha : HomeAssistant} {c : SprCoordinator} {poll : Poll} {mac : String}
    (succeeds : pollSucceeds ha c poll = true) (connects : poll.Connects ha mac) :
    SeenSince (c.poll ha poll).devices mac poll.now := by
  obtain ⟨raw, entries, final, replied, read, finished, devices⟩ := pollSucceeds_cases succeeds
  obtain ⟨rawDev, entry, reported⟩ := connects
  have listed := (listed_lookup replied read finished ⟨rawDev, entry⟩).2
  obtain ⟨raw', entries', replied', read', member, named⟩ := entry
  rw [replied, Except.ok.injEq] at replied'
  subst replied'
  rw [read, Except.ok.injEq] at read'
  subst read'
  have looped : SeenSince (pollEntries ha poll.now poll.considerHome ⟨c.devices, [], []⟩ entries).1.devices
      mac poll.now := connected_entries_seenSince named reported member (by rw [finished])
  rw [finished] at looped
  rw [devices]
  exact looped.of_lookup listed

/-! ## No flapping -/

theorem run_seenSince {ha : HomeAssistant} {mac : String} {since : Instant} (polls : List Poll) :
    ∀ {c : SprCoordinator}, SeenSince c.devices mac since →
      (∀ t ∈ transitions (SprCoordinator.poll ha) c polls, pollSucceeds ha t.before t.action = true) →
      (∀ poll ∈ polls, since ≤ poll.now) → (∀ poll ∈ polls, poll.Lists ha mac) →
      SeenSince (run (SprCoordinator.poll ha) c polls).devices mac since := by
  -- the sighting survives every poll that lists the device, so the run keeps it
  induction polls with
  | nil => exact fun seenSince _ _ _ => seenSince
  | cons poll rest ih =>
      intro c seenSince succeed later listed
      have first := succeed _ List.mem_cons_self
      have next := seenSince.poll (later _ List.mem_cons_self) first (listed _ List.mem_cons_self)
      exact ih next (fun t member => succeed t (List.mem_cons_of_mem _ member))
        (fun poll member => later poll (List.mem_cons_of_mem _ member))
        (fun poll member => listed poll (List.mem_cons_of_mem _ member))

/-- A device that one poll reports connected stays connected at every poll within
`considerHome` of it, as long as the polls go on listing it, whatever else they report. -/
theorem stays_connected_within_grace (ha : HomeAssistant) (c : SprCoordinator) (mac : String)
    (first : Poll) (between : List Poll) (last : Poll)
    (succeed : ∀ t ∈ transitions (SprCoordinator.poll ha) c (first :: between ++ [last]),
      pollSucceeds ha t.before t.action = true)
    (ordered : (first :: between ++ [last]).Pairwise fun a b => a.now ≤ b.now)
    (connects : first.Connects ha mac) (listed : ∀ poll ∈ between ++ [last], poll.Lists ha mac)
    (near : last.now - first.now < last.considerHome) :
    ∃ device, (run (SprCoordinator.poll ha) c (first :: between ++ [last])).devices.lookup mac =
      some device ∧ device.connected = true := by
  have start := connects_seenSince (succeed _ List.mem_cons_self) connects
  have later : ∀ poll ∈ between ++ [last], first.now ≤ poll.now := (List.pairwise_cons.mp ordered).1
  rw [List.cons_append] at succeed
  have rest := fun t member => succeed t (List.mem_cons_of_mem _ member)
  have finally_ := run_seenSince (between ++ [last]) start rest later listed
  -- the last poll settles the device on the sighting that the run has kept
  have succeeds : pollSucceeds ha (run (SprCoordinator.poll ha) (c.poll ha first) between) last = true :=
    rest _ (last_mem_transitions _ between last)
  obtain ⟨device, found, connected, _⟩ := listed_settled succeeds (listed last (by simp))
  rw [List.cons_append, run_cons]
  rw [run_concat] at finally_ ⊢
  refine ⟨device, found, ?_⟩
  obtain ⟨same, seen, found', stored, above⟩ := finally_
  rw [found, Option.some.injEq] at found'
  subst found'
  have grace : inGrace last.now last.considerHome (some seen) = true := inGrace_of_le above near
  rw [connected, stored, grace, Bool.or_true]

def onePhone (connected : Bool) (lastSeen : Int) : Json :=
  .obj [("devices", .arr [.obj [("mac", .str "AA-BB-CC-DD-EE-01"), ("connected", .bool connected),
    ("last_seen", .int lastSeen)]])]

/-- A poll `seconds` after the epoch that gets this response. -/
def phonePoll (seconds : Int) (connected : Bool) (lastSeen : Int) : Poll :=
  ⟨seconds * 1000000, 180000000, .ok (onePhone connected lastSeen)⟩

theorem phonePoll_hasEntry (seconds : Int) (connected : Bool) (lastSeen : Int) :
    (phonePoll seconds connected lastSeen).HasEntry .documented "aa:bb:cc:dd:ee:01"
      (.obj [("mac", .str "AA-BB-CC-DD-EE-01"), ("connected", .bool connected),
        ("last_seen", .int lastSeen)]) :=
  ⟨_, _, rfl, rfl, List.mem_singleton.mpr rfl, by rfl⟩

theorem phone_stays_connected :
    ∃ device, (run (SprCoordinator.poll .documented) .initial
        (phonePoll 1000 true 0 :: [phonePoll 1010 false 2000] ++ [phonePoll 1170 false 0])).devices.lookup
      "aa:bb:cc:dd:ee:01" = some device ∧ device.connected = true := by
  apply stays_connected_within_grace
  · intro t member
    simp only [List.cons_append, List.nil_append, transitions, List.mem_cons, List.not_mem_nil,
      or_false] at member
    rcases member with rfl | rfl | rfl <;> rfl
  · decide
  · exact ⟨_, phonePoll_hasEntry 1000 true 0, rfl⟩
  · intro poll member
    simp only [List.cons_append, List.nil_append, List.mem_cons, List.not_mem_nil, or_false] at member
    rcases member with rfl | rfl
    · exact ⟨_, phonePoll_hasEntry 1010 false 2000⟩
    · exact ⟨_, phonePoll_hasEntry 1170 false 0⟩
  · decide

/-! ## No ghosts -/

/-- Where a sighting comes from: a poll that reported the device connected, or the router. -/
def Founded (ha : HomeAssistant) (polls : List Poll) (mac : String) (seen : Instant) : Prop :=
  (∃ poll ∈ polls, poll.now = seen ∧ poll.Connects ha mac) ∨ ∃ poll ∈ polls, poll.Sights ha mac seen

theorem Founded.mono {ha : HomeAssistant} {polls more : List Poll} {mac : String} {seen : Instant}
    (founded : Founded ha polls mac seen) (grow : polls ⊆ more) : Founded ha more mac seen := by
  rcases founded with ⟨poll, member, reported⟩ | ⟨poll, member, reported⟩
  · exact Or.inl ⟨poll, grow member, reported⟩
  · exact Or.inr ⟨poll, grow member, reported⟩

/-- For a device it reports not connected, a response gives no sighting ahead of the poll. -/
def Poll.NotAhead (ha : HomeAssistant) (poll : Poll) : Prop :=
  ∀ mac rawDev seen, poll.HasEntry ha mac rawDev → reportsConnected rawDev = false →
    ReportsSeen ha rawDev seen → seen ≤ poll.now

/-- Every stored sighting has a source and is not ahead of the clock. -/
def SightingsFounded (ha : HomeAssistant) (polls : List Poll) (now : Instant)
    (devices : Map SprDevice) : Prop :=
  ∀ mac device seen, devices.lookup mac = some device → device.lastSeen = some seen →
    Founded ha polls mac seen ∧ seen ≤ now

theorem SightingsFounded.put {ha : HomeAssistant} {polls : List Poll} {now : Instant} {acc : Polling}
    (founded : SightingsFounded ha polls now acc.devices) {mac : String} {device : SprDevice}
    (own : ∀ seen, device.lastSeen = some seen →
      (acc.device mac).lastSeen = some seen ∨ Founded ha polls mac seen ∧ seen ≤ now) :
    SightingsFounded ha polls now (acc.put mac device).devices := by
  intro other found seen stored sighted
  by_cases same : other = mac
  · subst same
    rw [put_lookup_self, Option.some.injEq] at stored
    subst stored
    rcases own seen sighted with held | fresh
    · obtain ⟨before, kept, sighted⟩ := device_lastSeen held
      exact founded other before seen kept sighted
    · exact fresh
  · rw [put_lookup_other _ _ same] at stored
    exact founded other found seen stored sighted

theorem SightingsFounded.entry {ha : HomeAssistant} {polls : List Poll} {poll : Poll} {acc : Polling}
    (founded : SightingsFounded ha polls poll.now acc.devices) (member : poll ∈ polls)
    (notAhead : poll.NotAhead ha) {rawDev : Json}
    (entry : ∀ mac, rawMac ha rawDev = .ok (some mac) → poll.HasEntry ha mac rawDev) :
    SightingsFounded ha polls poll.now
      (pollEntry ha poll.now poll.considerHome acc rawDev).1.devices := by
  obtain ⟨err, ended⟩ | ⟨_, passed⟩ | ⟨mac, lastSeen, named, sighted, settled⟩ | ⟨mac, err, _, ended⟩ :=
    pollEntry_cases ha poll.now poll.considerHome acc rawDev
  · rwa [ended]
  · rwa [passed]
  · rw [settled]
    refine founded.put fun seen stored => ?_
    have stored : lastSeen = some seen := stored
    rcases sightedAt_cases sighted with ⟨up, rfl⟩ | ⟨_, rfl⟩ | ⟨down, reported, reports, rfl⟩
    · cases stored
      exact Or.inr ⟨Or.inl ⟨poll, member, rfl, rawDev, entry _ named, up⟩, Int.le_refl _⟩
    · exact Or.inl stored
    · rcases laterSighting_cases stored with rfl | held
      · exact Or.inr ⟨Or.inr ⟨poll, member, rawDev, entry _ named, reports⟩,
          notAhead _ _ _ (entry _ named) down reports⟩
      · exact Or.inl held
  · rw [ended]
    exact founded.put fun seen stored => Or.inl stored

theorem SightingsFounded.dropUnseen {ha : HomeAssistant} {polls : List Poll} {now : Instant}
    {devices : Map SprDevice} (founded : SightingsFounded ha polls now devices)
    (seenMacs : List String) :
    SightingsFounded ha polls now (Integration.dropUnseen devices seenMacs) := by
  intro mac device seen found stored
  rw [dropUnseen_lookup] at found
  split at found
  · exact founded mac device seen found stored
  · cases found

theorem SightingsFounded.poll {ha : HomeAssistant} {polls : List Poll} {poll : Poll} {c : SprCoordinator}
    (founded : SightingsFounded ha polls poll.now c.devices) (member : poll ∈ polls)
    (notAhead : poll.NotAhead ha) : SightingsFounded ha polls poll.now (c.poll ha poll).devices := by
  refine poll_preserves (fun raw entries replied read rawDev listed acc founded => ?_)
    (fun devices seenMacs founded => founded.dropUnseen seenMacs) founded
  exact founded.entry member notAhead fun mac named => ⟨raw, entries, replied, read, listed, named⟩

theorem SightingsFounded.later {ha : HomeAssistant} {polls more : List Poll} {now later : Instant}
    {devices : Map SprDevice} (founded : SightingsFounded ha polls now devices)
    (grow : polls ⊆ more) (passed : now ≤ later) : SightingsFounded ha more later devices := by
  intro mac device seen found stored
  obtain ⟨source, behind⟩ := founded mac device seen found stored
  exact ⟨source.mono grow, Int.le_trans behind passed⟩

theorem run_sightingsFounded {ha : HomeAssistant} (polls : List Poll) (now : Instant)
    (ordered : polls.Pairwise fun a b => a.now ≤ b.now) (passed : ∀ poll ∈ polls, poll.now ≤ now)
    (notAhead : ∀ poll ∈ polls, poll.NotAhead ha) :
    SightingsFounded ha polls now (run (SprCoordinator.poll ha) .initial polls).devices := by
  -- from the last poll backwards, since a sighting is bounded by the poll after it
  induction polls using List.reverseRec generalizing now with
  | nil => intro mac device seen found; simp [SprCoordinator.initial] at found
  | append_singleton earlier poll ih =>
      obtain ⟨before, _, upTo⟩ := List.pairwise_append.mp ordered
      have founded := ih poll.now before (fun old member => upTo old member poll (by simp))
        fun old member => notAhead old (List.mem_append_left _ member)
      have own : poll ∈ earlier ++ [poll] := by simp
      rw [run_concat]
      have next := (founded.later (List.subset_append_left earlier [poll]) (Int.le_refl _)).poll own
        (notAhead poll own)
      exact next.later (List.Subset.refl _) (passed poll own)

/-- A device that is connected after a poll that lists it and reports it not connected has
been sighted within `considerHome`: by an earlier poll that reported it connected, or by
the router. -/
def NoGhosts (ha : HomeAssistant) (earlier : List Poll) (poll : Poll) : Prop :=
  ∀ mac device, poll.Lists ha mac → ¬ poll.Connects ha mac →
    (run (SprCoordinator.poll ha) .initial (earlier ++ [poll])).devices.lookup mac = some device →
    device.connected = true →
    ∃ seen, poll.now - poll.considerHome < seen ∧ seen ≤ poll.now ∧
      ((∃ p ∈ earlier, p.now = seen ∧ p.Connects ha mac) ∨
        ∃ p ∈ earlier ++ [poll], p.Sights ha mac seen)

/-- There are no ghosts as long as the router reports no sighting ahead of the clock. -/
theorem noGhosts_of_notAhead (ha : HomeAssistant) (earlier : List Poll) (poll : Poll)
    (ordered : (earlier ++ [poll]).Pairwise fun a b => a.now ≤ b.now)
    (notAhead : ∀ p ∈ earlier ++ [poll], p.NotAhead ha)
    (succeeds : pollSucceeds ha (run (SprCoordinator.poll ha) .initial earlier) poll = true) :
    NoGhosts ha earlier poll := by
  intro mac device listed away found connected
  have upTo : ∀ p ∈ earlier ++ [poll], p.now ≤ poll.now := by
    intro p member
    rcases List.mem_append.mp member with old | own
    · exact (List.pairwise_append.mp ordered).2.2 p old poll (by simp)
    · exact List.mem_singleton.mp own ▸ Int.le_refl _
  have founded := run_sightingsFounded (earlier ++ [poll]) poll.now ordered upTo notAhead mac device
  obtain ⟨settled, kept, grace, raised⟩ := listed_settled succeeds listed
  rw [run_concat, kept, Option.some.injEq] at found
  subst found
  -- the poll reports it not connected, so the grace period did it
  have down : settled.rawConnected = false := by
    rw [Bool.eq_false_iff]
    exact fun up => away (raised up)
  rw [connected, down, Bool.false_or] at grace
  cases stored : settled.lastSeen with
  | none => simp [stored, inGrace] at grace
  | some seen =>
      rw [run_concat] at founded
      obtain ⟨source, behind⟩ := founded seen kept stored
      rw [stored] at grace
      refine ⟨seen, inGrace_iff.mp grace.symm, behind, ?_⟩
      rcases source with ⟨p, member, at_, reported⟩ | reported
      · rcases List.mem_append.mp member with old | own
        · exact Or.inl ⟨p, old, at_, reported⟩
        · rw [List.mem_singleton.mp own] at reported
          exact absurd reported away
      · exact Or.inr reported

theorem phonePoll_entry {seconds : Int} {connected : Bool} {lastSeen : Int} {mac : String} {rawDev : Json}
    (entry : (phonePoll seconds connected lastSeen).HasEntry .documented mac rawDev) :
    mac = "aa:bb:cc:dd:ee:01" ∧ rawDev = .obj [("mac", .str "AA-BB-CC-DD-EE-01"),
      ("connected", .bool connected), ("last_seen", .int lastSeen)] := by
  obtain ⟨raw, entries, replied, read, member, named⟩ := entry
  cases replied
  cases read
  obtain rfl := List.mem_singleton.mp member
  have known : rawMac .documented (.obj [("mac", .str "AA-BB-CC-DD-EE-01"),
      ("connected", .bool connected), ("last_seen", .int lastSeen)]) =
    .ok (some "aa:bb:cc:dd:ee:01") := rfl
  rw [known, Except.ok.injEq, Option.some.injEq] at named
  exact ⟨named.symm, rfl⟩

theorem noGhosts_phone : NoGhosts .documented [phonePoll 1000 true 0] (phonePoll 1010 false 900) := by
  apply noGhosts_of_notAhead
  · decide
  · intro p member mac rawDev seen entry _ reports
    simp only [List.cons_append, List.nil_append, List.mem_cons, List.not_mem_nil, or_false] at member
    rcases member with rfl | rfl <;> obtain ⟨-, rfl⟩ := phonePoll_entry entry
    · exact absurd reports.1 (by decide)
    · cases reports.2
      decide
  · rfl

/-- A phone that nobody has connected: the router, an hour ahead, has just seen it. -/
theorem future_sighting_makes_ghost : ¬ ∀ (ha : HomeAssistant) (earlier : List Poll) (poll : Poll),
    (earlier ++ [poll]).Pairwise (fun a b => a.now ≤ b.now) →
    pollSucceeds ha (run (SprCoordinator.poll ha) .initial earlier) poll = true →
    NoGhosts ha earlier poll := by
  intro all
  have ghosts := all .documented [] (phonePoll 1000 false 4600) (by decide) rfl
  obtain ⟨seen, _, behind, ⟨p, member, _⟩ | ⟨p, member, rawDev, entry, reports⟩⟩ :=
    ghosts "aa:bb:cc:dd:ee:01" _ ⟨_, phonePoll_hasEntry 1000 false 4600⟩
      (by
        rintro ⟨rawDev, entry, reported⟩
        obtain ⟨-, rfl⟩ := phonePoll_entry entry
        cases reported) rfl rfl
  · cases member
  · obtain rfl := List.mem_singleton.mp member
    obtain ⟨-, rfl⟩ := phonePoll_entry entry
    cases reports.2
    exact absurd behind (by decide)

end SprHomeAssistant.Integration

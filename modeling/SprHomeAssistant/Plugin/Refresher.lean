import SprHomeAssistant.Plugin.Requests

/-! The plugin process with every request of its refresh as a step of its own. -/

set_option autoImplicit false

namespace SprHomeAssistant.Plugin.Requests
open Go Library.Asking Library.Runs Library.Refinement

inductive Stage where
  | idle
  | asking (now : Time) (left : Asks (Option (String → Gathered) × VersionCheck))
  | gathered (g : String → Gathered)
  /-- Copied, with the hostname still to be asked for. -/
  | copied (g : String → Gathered) (copy : Copied)
  | named (g : Gathered) (copy : Copied)

structure Refresher where
  stage : Stage
  /-- The clock, the handlers and the shared state. No step reads its phase. -/
  process : Process
  /-- What the refresh under way was answered so far, and the finished ones before it. No step
  reads them. -/
  answers : List (Exchange Query.Reply)
  finished : List (List (Exchange Query.Reply))

def Refresher.start (clock : Time) : Refresher := ⟨.idle, .start clock, [], []⟩

inductive Action where
  | tick (elapsed : Nat)
  | handleBusEvent (topic mac : String)
  | markSeen (handler : Nat)
  | beginRefresh
  /-- The query under way is answered, or the last answer is taken up. -/
  | reply (replies : (asked : Query) → asked.Reply)
  | copyState
  | publish

/-- The clock answers for itself. -/
def reply (clock : Time) (replies : (asked : Query) → asked.Reply) : (asked : Query) → asked.Reply
  | .now => clock
  | asked => replies asked

def Refresher.reply (s : Refresher) (replies : (asked : Query) → asked.Reply) : Refresher :=
  let replies := Requests.reply s.process.clock replies
  match s.stage with
  | .asking now (.ask asked next) =>
      { s with
        stage := .asking now (next (replies asked))
        answers := s.answers ++ [⟨asked, replies asked⟩] }
  | .asking _ (.done (none, check)) =>
      { s with
        stage := .idle
        process := { s.process with check := check }
        answers := []
        finished := s.finished ++ [s.answers] }
  | .asking _ (.done (some g, check)) =>
      { s with
        stage := .gathered g
        process := { s.process with
          check := check
          history.tablesRead := s.process.history.tablesRead ++ [(g "").devices] } }
  | .copied g copy =>
      { s with
        stage := .named (g (replies .hostname)) copy
        answers := s.answers ++ [⟨.hostname, replies .hostname⟩] }
  | _ => s

def step (s : Refresher) : Action → Refresher
  | .tick elapsed => { s with process := Plugin.step s.process (.tick elapsed) }
  | .handleBusEvent topic mac => { s with process := Plugin.step s.process (.handleBusEvent topic mac) }
  | .markSeen handler => { s with process := Plugin.step s.process (.markSeen handler) }
  | .beginRefresh =>
      match s.stage with
      | .idle =>
          { s with stage := .asking s.process.clock (gather s.process.clock s.process.check) }
      | _ => s
  | .reply replies => s.reply replies
  | .copyState =>
      match s.stage with
      | .gathered g => { s with stage := .copied g (copyState s.process.store) }
      | _ => s
  | .publish =>
      match s.stage with
      | .named g copy =>
          { stage := .idle
            process := s.process.publish g copy
            answers := []
            finished := s.finished ++ [s.answers] }
      | _ => s

/-- What a step comes to. -/
inductive Moved (s : Refresher) : Refresher → Prop where
  | still : Moved s s
  /-- The clock or a handler. -/
  | aside (action : Plugin.Action) (own : (∃ elapsed, action = .tick elapsed) ∨
      (∃ topic mac, action = .handleBusEvent topic mac) ∨ ∃ handler, action = .markSeen handler) :
      Moved s { s with process := Plugin.step s.process action }
  | began (idle : s.stage = .idle) :
      Moved s { s with stage := .asking s.process.clock (gather s.process.clock s.process.check) }
  | answered {now : Time} {asked : Query} {next : asked.Reply → Asks (Option (String → Gathered) × VersionCheck)}
      (asking : s.stage = .asking now (.ask asked next)) (reply : asked.Reply) :
      Moved s { s with stage := .asking now (next reply), answers := s.answers ++ [⟨asked, reply⟩] }
  | unread {now : Time} {check : VersionCheck} (asking : s.stage = .asking now (.done (none, check))) :
      Moved s
        { s with
          stage := .idle
          process := { s.process with check := check }
          answers := []
          finished := s.finished ++ [s.answers] }
  | gathered {now : Time} {g : String → Gathered} {check : VersionCheck}
      (asking : s.stage = .asking now (.done (some g, check))) :
      Moved s
        { s with
          stage := .gathered g
          process := { s.process with
            check := check
            history.tablesRead := s.process.history.tablesRead ++ [(g "").devices] } }
  | copied {g : String → Gathered} (gathered : s.stage = .gathered g) :
      Moved s { s with stage := .copied g (copyState s.process.store) }
  | named {g : String → Gathered} {copy : Copied} (copied : s.stage = .copied g copy) (hostname : String) :
      Moved s { s with stage := .named (g hostname) copy, answers := s.answers ++ [⟨.hostname, hostname⟩] }
  | published {g : Gathered} {copy : Copied} (named : s.stage = .named g copy) :
      Moved s
        { stage := .idle
          process := s.process.publish g copy
          answers := []
          finished := s.finished ++ [s.answers] }

theorem moved (s : Refresher) (action : Action) : Moved s (step s action) := by
  cases action with
  | tick elapsed => exact .aside _ (Or.inl ⟨elapsed, rfl⟩)
  | handleBusEvent topic mac => exact .aside _ (Or.inr (Or.inl ⟨topic, mac, rfl⟩))
  | markSeen handler => exact .aside _ (Or.inr (Or.inr ⟨handler, rfl⟩))
  | beginRefresh =>
      simp only [step]
      split
      next idle => exact .began idle
      next => exact .still
  | reply replies =>
      simp only [step, Refresher.reply]
      split
      next asking => exact .answered asking _
      next asking => exact .unread asking
      next asking => exact .gathered asking
      next copied => exact .named copied _
      next => exact .still
  | copyState =>
      simp only [step]
      split
      next gathered => exact .copied gathered
      next => exact .still
  | publish =>
      simp only [step]
      split
      next named => exact .published named
      next => exact .still

/-! ## The process model -/

/-- Where the process model stands, if this is what the hostname is going to be. -/
def Stage.phase (hostname : String) : Stage → Phase
  | .idle => .idle
  | .asking now _ => .started now
  | .gathered g => .gathered (g hostname)
  | .copied g copy => .copied (g hostname) copy
  | .named g copy => .copied g copy

def Refresher.view (hostname : String) (s : Refresher) : Process :=
  { s.process with phase := s.stage.phase hostname }

/-- The check that refreshes leave behind, from their answers alone. -/
def lastCheck (refreshes : List (List (Exchange Query.Reply))) : VersionCheck :=
  refreshes.foldl (fun check answers => (registryCheck answers).getD check) .initial

/-- What the refresh has been answered so far is what its stage has come from. -/
def Refresher.Follows (s : Refresher) : Prop :=
  match s.stage with
  | .idle => s.answers = [] ∧ s.process.check = lastCheck s.finished
  | .asking now left =>
      s.process.check = lastCheck s.finished ∧ Leaves (gather now (lastCheck s.finished)) s.answers left
  | .gathered g | .copied g _ =>
      ∃ now, Path (gather now (lastCheck s.finished)) s.answers (some g, s.process.check)
  | .named _ _ =>
      ∃ now g answers, ∃ hostname : String,
        Path (gather now (lastCheck s.finished)) answers (some g, s.process.check) ∧
          s.answers = answers ++ [⟨.hostname, hostname⟩]

theorem lastCheck_concat (finished : List (List (Exchange Query.Reply))) (answers : List (Exchange Query.Reply)) :
    lastCheck (finished ++ [answers]) = (registryCheck answers).getD (lastCheck finished) := by
  rw [lastCheck, List.foldl_concat]
  rfl

theorem gather_devices {now : Time} {check after : VersionCheck} {answers : List (Exchange Query.Reply)}
    {g : String → Gathered} (path : Path (gather now check) answers (some g, after)) (hostname : String) :
    (g hostname).devices = (g "").devices := by
  obtain ⟨reads, readable, agrees⟩ := gather_path path
  obtain ⟨table, devices⟩ := Option.isSome_iff_exists.mp readable
  have first := (agrees hostname).2
  have second := (agrees "").2
  simp only [Plugin.gather, devices, Option.map_some, Prod.mk.injEq, Option.some.injEq] at first second
  rw [← first.1, ← second.1]
  rfl

theorem aside_check {p : Process} {action : Plugin.Action}
    (own : (∃ elapsed, action = .tick elapsed) ∨ (∃ topic mac, action = .handleBusEvent topic mac) ∨
      ∃ handler, action = .markSeen handler) : (Plugin.step p action).check = p.check := by
  rcases own with ⟨elapsed, rfl⟩ | ⟨topic, mac, rfl⟩ | ⟨handler, rfl⟩
  · rfl
  · simp only [Plugin.step, Process.handleBusEvent]
    split <;> rfl
  · simp only [Plugin.step]
    split <;> rfl

theorem step_follows {s : Refresher} (follows : s.Follows) (action : Action) : (step s action).Follows := by
  have did := moved s action
  generalize step s action = next at did ⊢
  unfold Refresher.Follows at follows ⊢
  cases did with
  | still => exact follows
  | aside action own => rwa [aside_check own]
  | began idle =>
      rw [idle] at follows
      obtain ⟨none, check⟩ := follows
      exact ⟨check, by rw [none, check]; exact .start⟩
  | answered asking reply =>
      rw [asking] at follows
      exact ⟨follows.1, follows.2.answered reply⟩
  | unread asking =>
      rw [asking] at follows
      exact ⟨rfl, by rw [lastCheck_concat]; exact gather_check follows.2.finished⟩
  | gathered asking =>
      rw [asking] at follows
      exact ⟨_, follows.2.finished⟩
  | copied gathered =>
      rw [gathered] at follows
      exact follows
  | named copied hostname =>
      rw [copied] at follows
      obtain ⟨now, path⟩ := follows
      exact ⟨now, _, _, hostname, path, rfl⟩
  | published named =>
      rw [named] at follows
      obtain ⟨now, g, answers, hostname, path, whole⟩ := follows
      refine ⟨rfl, ?_⟩
      rw [lastCheck_concat, whole, registryCheck_hostname]
      exact gather_check path

/-- A handler or the clock does the same in any phase. -/
theorem step_aside {p : Process} {action : Plugin.Action} (phase : Phase)
    (own : (∃ elapsed, action = .tick elapsed) ∨ (∃ topic mac, action = .handleBusEvent topic mac) ∨
      ∃ handler, action = .markSeen handler) :
    { Plugin.step p action with phase := phase } = Plugin.step { p with phase := phase } action := by
  rcases own with ⟨elapsed, rfl⟩ | ⟨topic, mac, rfl⟩ | ⟨handler, rfl⟩
  · rfl
  · simp only [Plugin.step, Process.handleBusEvent]
    split <;> rfl
  · simp only [Plugin.step]
    split <;> rfl

/-- A step is one of the process model's, or none, from what some hostname makes of the
state before it. The step that learns the hostname chooses. -/
theorem step_view {s : Refresher} (follows : s.Follows) (action : Action) (hostname : String) :
    ∃ before, Reached Plugin.step (s.view before) ((step s action).view hostname) := by
  have did := moved s action
  generalize step s action = next at did ⊢
  cases did with
  | still => exact ⟨hostname, .refl _⟩
  | aside action own =>
      exact ⟨hostname, [action], step_aside (s.stage.phase hostname) own⟩
  | began idle =>
      refine ⟨hostname, [.beginRefresh], ?_⟩
      simp [Refresher.view, Stage.phase, Plugin.step, idle]
  | answered asking reply =>
      -- between two requests the other process has not fetched yet
      refine ⟨hostname, [], ?_⟩
      simp [Refresher.view, Stage.phase, asking]
  | @unread now check asking =>
      simp only [Refresher.Follows, asking] at follows
      obtain ⟨reads, -, agrees⟩ := gather_path follows.2.finished
      refine ⟨hostname, [.fetch { reads with hostname := hostname }], ?_⟩
      simp [Refresher.view, Stage.phase, Plugin.step, Process.fetch, asking, follows.1, (agrees hostname).2]
  | gathered asking =>
      simp only [Refresher.Follows, asking] at follows
      obtain ⟨reads, -, agrees⟩ := gather_path follows.2.finished
      refine ⟨hostname, [.fetch { reads with hostname := hostname }], ?_⟩
      simp [Refresher.view, Stage.phase, Plugin.step, Process.fetch, asking, follows.1, (agrees hostname).2,
        gather_devices follows.2.finished hostname]
  | copied gathered =>
      refine ⟨hostname, [.copyState], ?_⟩
      simp [Refresher.view, Stage.phase, Plugin.step, gathered]
  -- the hostname is learned last, so the atomic fetch is given it from the start
  | named copied learned =>
      refine ⟨learned, [], ?_⟩
      simp [Refresher.view, Stage.phase, copied]
  | published named =>
      refine ⟨hostname, [.publish], ?_⟩
      simp [Refresher.view, Stage.phase, Plugin.step, Process.publish, named]

theorem start_follows (clock : Time) : (Refresher.start clock).Follows := by
  simp [Refresher.Follows, Refresher.start, Process.start, lastCheck]

/-- Whatever the router answers from one request to the next and whatever the handlers do
in between, the process is in a state that the process model comes to as well. -/
theorem run_reached (clock : Time) (actions : List Action) (hostname : String) :
    Reached Plugin.step (.start clock) ((run step (.start clock) actions).view hostname) := by
  refine (invariant (fun s : Refresher => s.Follows ∧
    ∀ hostname, Reached Plugin.step (.start clock) (s.view hostname)) ?_ 
    ⟨start_follows clock, fun _ => .refl _⟩ actions).1.2 hostname
  rintro s action ⟨follows, reached⟩
  refine ⟨step_follows follows action, fun hostname => ?_⟩
  obtain ⟨before, onward⟩ := step_view follows action hostname
  exact (reached before).trans onward

/-! ## The requests of a run -/

/-- All requests of a refresh with these readings. -/
def allRequests (reads : Reads) (check : VersionCheck) : List Request :=
  requestsOf reads check ++ if reads.devices.isSome then [get "/info/hostname"] else []

/-- A refresh that has come so far: whatever its answers leave open, it has begun to ask what
they call for, in the order of the source. -/
structure Asked (check : VersionCheck) (answers : List (Exchange Query.Reply)) : Prop where
  possible : ∃ reads, GoesBy reads answers
  begins : ∀ reads, GoesBy reads answers → requests answers <+: allRequests reads check

/-- A refresh that has asked all of it: its answers leave nothing open that it should ask. -/
structure AskedWhole (check : VersionCheck) (answers : List (Exchange Query.Reply)) : Prop where
  possible : ∃ reads, GoesBy reads answers
  all : ∀ reads, GoesBy reads answers → requests answers = allRequests reads check

theorem AskedWhole.asked {check : VersionCheck} {answers : List (Exchange Query.Reply)}
    (whole : AskedWhole check answers) : Asked check answers :=
  ⟨whole.possible, fun reads goes => whole.all reads goes ▸ List.prefix_rfl⟩

theorem GoesBy.part {reads : Reads} {answers rest : List (Exchange Query.Reply)}
    (goes : GoesBy reads (answers ++ rest)) : GoesBy reads answers where
  gives := (List.forall_mem_append.mp goes.gives).1
  clock := fun now first => goes.clock now (by rw [List.findSome?_append, first, Option.some_or])

theorem GoesBy.hostname {reads : Reads} {answers : List (Exchange Query.Reply)} (goes : GoesBy reads answers) :
    GoesBy reads (answers ++ [⟨.hostname, reads.hostname⟩]) where
  gives := List.forall_mem_append.mpr ⟨goes.gives, List.forall_mem_cons.mpr ⟨rfl, List.forall_mem_nil _⟩⟩
  clock := fun now first => goes.clock now (by simpa [List.findSome?_append, clockRead] using first)

/-- A router with these readings. -/
def replies (reads : Reads) : (asked : Query) → asked.Reply
  | .devices | .devicesPublic => reads.devices
  | .interfacesConfiguration => reads.interfaces
  | .topology => reads.topology
  | .allStations iface => reads.stations 0 iface
  | .arp => reads.arp
  | .traffic name => trafficSet reads name
  | .ipAddr => reads.ipAddrs
  | .uptime => reads.uptime
  | .release => reads.release
  | .version => reads.versions
  | .now => reads.releaseAsked
  | .releasesAvailable => reads.releasesAvailable
  | .hostname => reads.hostname

theorem gives_replies (reads : Reads) (asked : Query) : Gives reads ⟨asked, replies reads asked⟩ := by
  cases asked with
  | devices => exact fun _ => rfl
  | allStations iface => exact ⟨0, rfl⟩
  | now => exact Or.inl rfl
  | _ => rfl

/-- What is left of a refresh may be answered by the readings that it has gone by. -/
theorem GoesBy.answered {reads : Reads} {answers rest : List (Exchange Query.Reply)} (goes : GoesBy reads answers)
    (replied : ∀ answer ∈ rest, answer.2 = replies reads answer.1) : GoesBy reads (answers ++ rest) where
  gives := by
    refine List.forall_mem_append.mpr ⟨goes.gives, ?_⟩
    rintro ⟨asked, reply⟩ member
    obtain rfl : reply = replies reads asked := replied _ member
    exact gives_replies reads asked
  clock := by
    intro now first
    rw [List.findSome?_append, Option.or_eq_some_iff] at first
    obtain read | ⟨-, later⟩ := first
    · exact goes.clock now read
    · obtain ⟨⟨asked, reply⟩, member, read⟩ := List.exists_of_findSome?_eq_some later
      obtain rfl : reply = replies reads asked := replied _ member
      cases asked with
      | now => exact Option.some.inj read
      | _ => cases read

/-- A refresh that has not copied the shared state, completed by a router that fits. -/
theorem asked_of_leaves {now : Time} {check : VersionCheck} {answers : List (Exchange Query.Reply)}
    {left : Asks (Option (String → Gathered) × VersionCheck)} (leaves : Leaves (gather now check) answers left) :
    Asked check answers where
  possible := by
    obtain ⟨rest, result, onward, -⟩ := exists_path left (replies (tableOnly ∅))
    obtain ⟨reads, -, agrees⟩ := gather_path (leaves.path onward)
    exact ⟨_, (agrees "").1.part⟩
  begins := by
    intro reads goes
    obtain ⟨rest, result, onward, replied⟩ := exists_path left (replies reads)
    have whole := (gather_asks (leaves.path onward) (goes.answered replied)).1
    rw [requests_append] at whole
    have part : requests answers <+: requestsOf reads check := whole ▸ List.prefix_append _ _
    exact part.trans (List.prefix_append _ _)

theorem asked_of_path {now : Time} {check after : VersionCheck} {answers : List (Exchange Query.Reply)}
    {g : String → Gathered} (path : Path (gather now check) answers (some g, after)) : Asked check answers where
  possible := by
    obtain ⟨reads, -, agrees⟩ := gather_path path
    exact ⟨_, (agrees "").1⟩
  begins := fun _ goes => (gather_asks path goes).1 ▸ List.prefix_append _ _

theorem askedWhole_of_unread {now : Time} {check after : VersionCheck} {answers : List (Exchange Query.Reply)}
    (path : Path (gather now check) answers (none, after)) : AskedWhole check answers where
  possible := by
    obtain ⟨reads, -, agrees⟩ := gather_path path
    exact ⟨_, (agrees "").1⟩
  all := by
    intro reads goes
    obtain ⟨asked, unread⟩ := gather_asks path goes
    rw [asked, allRequests, unread]
    simp

theorem askedWhole_of_named {now : Time} {check after : VersionCheck} {answers : List (Exchange Query.Reply)}
    {g : String → Gathered} (path : Path (gather now check) answers (some g, after)) (hostname : String) :
    AskedWhole check (answers ++ [⟨.hostname, hostname⟩]) where
  possible := by
    obtain ⟨reads, -, agrees⟩ := gather_path path
    exact ⟨{ reads with hostname := hostname }, (agrees hostname).1.hostname⟩
  all := by
    intro reads goes
    obtain ⟨asked, readable⟩ := gather_asks path goes.part
    rw [requests_append, asked, allRequests, readable]
    rfl

/-- Each refresh against the check that those before it left behind. -/
structure Refresher.Records (s : Refresher) : Prop where
  underway : Asked (lastCheck s.finished) s.answers
  finished : ∀ before refresh after, s.finished = before ++ refresh :: after →
    AskedWhole (lastCheck before) refresh

theorem asked_of_follows {s : Refresher} (follows : s.Follows) : Asked (lastCheck s.finished) s.answers := by
  unfold Refresher.Follows at follows
  cases stage : s.stage with
  | idle =>
      simp only [stage] at follows
      rw [follows.1]
      exact asked_of_leaves (Leaves.start : Leaves (gather 0 _) [] (gather 0 _))
  | asking now left =>
      simp only [stage] at follows
      exact asked_of_leaves follows.2
  | gathered g =>
      simp only [stage] at follows
      exact asked_of_path follows.choose_spec
  | copied g copy =>
      simp only [stage] at follows
      exact asked_of_path follows.choose_spec
  | named g copy =>
      simp only [stage] at follows
      obtain ⟨now, g, answers, hostname, path, whole⟩ := follows
      rw [whole]
      exact (askedWhole_of_named path hostname).asked

/-- One more finished refresh among those before. -/
theorem finished_concat {finished : List (List (Exchange Query.Reply))} {answers : List (Exchange Query.Reply)}
    (records : ∀ before refresh after, finished = before ++ refresh :: after → AskedWhole (lastCheck before) refresh)
    (whole : AskedWhole (lastCheck finished) answers) :
    ∀ before refresh after, finished ++ [answers] = before ++ refresh :: after →
      AskedWhole (lastCheck before) refresh := by
  intro before refresh after split
  cases after using List.reverseRecOn with
  | nil =>
      obtain ⟨rfl, same⟩ := List.append_inj' split rfl
      obtain rfl : answers = refresh := by simpa using same
      exact whole
  | append_singleton after last _ =>
      rw [← List.cons_append, ← List.append_assoc] at split
      exact records before refresh after (List.append_inj' split rfl).1

theorem step_records {s : Refresher} (follows : s.Follows) (records : s.Records) (action : Action) :
    (step s action).Records := by
  refine ⟨asked_of_follows (step_follows follows action), ?_⟩
  have did := moved s action
  generalize step s action = next at did ⊢
  unfold Refresher.Follows at follows
  cases did with
  | unread asking =>
      rw [asking] at follows
      exact finished_concat records.finished (askedWhole_of_unread follows.2.finished)
  | published named =>
      rw [named] at follows
      obtain ⟨now, g, answers, hostname, path, whole⟩ := follows
      exact finished_concat records.finished (whole ▸ askedWhole_of_named path hostname)
  | _ => exact records.finished

theorem start_records (clock : Time) : (Refresher.start clock).Records where
  underway := asked_of_follows (start_follows clock)
  finished := by simp [Refresher.start]

/-- In every run, a finished refresh has asked all that its own answers and the check left by
the refreshes before it call for, and the one under way a beginning of it. -/
theorem run_records (clock : Time) (actions : List Action) : (run step (.start clock) actions).Records :=
  (invariant (fun s : Refresher => s.Follows ∧ s.Records)
    (fun _ action ⟨follows, records⟩ => ⟨step_follows follows action, step_records follows records action⟩)
    ⟨start_follows clock, start_records clock⟩ actions).1.2

end SprHomeAssistant.Plugin.Requests

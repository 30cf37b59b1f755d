import SprHomeAssistant.Library.Logs
import SprHomeAssistant.Plugin.Config

/-! Saving the configuration, with every step that can fail or be the last one.

The document is written beside the file and renamed over it. A process may be killed
between any two of these steps; what it has written by then stays on the disk.
-/

set_option autoImplicit false

namespace SprHomeAssistant.Plugin.ConfigFile
open Library.Runs

variable {Byte : Type}

structure Disk (Byte : Type) where
  /-- Whether the directory of the configuration is there. -/
  directory : Bool
  config : Option (List Byte)
  tmp : Option (List Byte)

/-- Where the process is in `loadConfig` and the save at its end. -/
inductive Stage (Byte : Type) where
  | loading
  | making
  | opening
  | writing (remaining : List Byte)
  | complete
  | loaded

structure Host (Byte : Type) where
  disk : Disk Byte
  stage : Stage Byte
  gConfig : Config

def Host.start (disk : Disk Byte) : Host Byte := ⟨disk, .loading, .initial⟩

inductive Action where
  /-- The process is killed at this point and another one starts. -/
  | restart
  | load (read : ReadFile) (random : Random)
  | mkdirAll (succeeds : Bool)
  | openTmp (succeeds : Bool)
  | write (count : Nat)
  | writeFails
  | close
  | rename (succeeds : Bool)

def Host.load (codec : Codec (List Byte)) (host : Host Byte) (read : ReadFile) (random : Random) : Host Byte :=
  let filled := fillConfig (decodeConfig codec host.disk.config read) random
  { host with gConfig := filled.1, stage := if filled.2 then .making else .loaded }

def Host.openTmp (codec : Codec (List Byte)) (host : Host Byte) (succeeds : Bool) : Host Byte :=
  if succeeds && host.disk.directory then
    { host with disk.tmp := some [], stage := .writing (codec.marshalIndent host.gConfig) }
  else { host with stage := .loaded }

def Host.write (host : Host Byte) (remaining : List Byte) (count : Nat) : Host Byte :=
  { host with
    disk.tmp := host.disk.tmp.map (· ++ remaining.take count)
    stage := .writing (remaining.drop count) }

def Host.rename (host : Host Byte) (succeeds : Bool) : Host Byte :=
  match succeeds, host.disk.tmp with
  | true, some bytes => { host with disk.config := some bytes, disk.tmp := none, stage := .loaded }
  | _, _ => { host with stage := .loaded }

/-- An action that is not enabled changes nothing. -/
def step (codec : Codec (List Byte)) (host : Host Byte) (action : Action) : Host Byte :=
  match action, host.stage with
  | .restart, _ => { host with stage := .loading, gConfig := .initial }
  | .load read random, .loading => host.load codec read random
  | .mkdirAll succeeds, .making =>
      -- its error is not looked at
      { host with disk.directory := host.disk.directory || succeeds, stage := .opening }
  | .openTmp succeeds, .opening => host.openTmp codec succeeds
  | .write count, .writing remaining => host.write remaining count
  | .writeFails, .writing _ => { host with stage := .loaded }
  | .close, .writing [] => { host with stage := .complete }
  | .rename succeeds, .complete => host.rename succeeds
  | _, _ => host

/-- The configuration that the file holds. -/
def Host.stored (codec : Codec (List Byte)) (host : Host Byte) : Config :=
  decodeConfig codec host.disk.config .answers

/-! ## What a save has come to -/

/-- Beside a process that has loaded its configuration stands at most a part of its document,
and the whole of it when the renaming is due. -/
structure Saves (codec : Codec (List Byte)) (host : Host Byte) : Prop where
  part : ∀ remaining, host.stage = .writing remaining →
    ∃ written, host.disk.tmp = some written ∧ written ++ remaining = codec.marshalIndent host.gConfig
  whole : host.stage = .complete → host.disk.tmp = some (codec.marshalIndent host.gConfig)

theorem start_saves (codec : Codec (List Byte)) (disk : Disk Byte) : Saves codec (.start disk) where
  part := by simp [Host.start]
  whole := by simp [Host.start]

theorem saves_of_stage {codec : Codec (List Byte)} {host : Host Byte}
    (apart : (∀ remaining, host.stage ≠ .writing remaining) ∧ host.stage ≠ .complete) : Saves codec host where
  part := fun remaining writing => absurd writing (apart.1 remaining)
  whole := fun due => absurd due apart.2

/-- What a step comes to: it leaves the file and the configuration alone or ends the process,
it loads the file, or it puts the whole document in the place of the file. -/
inductive Stepped (codec : Codec (List Byte)) (host : Host Byte) (action : Action) (next : Host Byte) : Prop where
  | aside (config : next.disk.config = host.disk.config)
      (loaded : next.stage ≠ .loading → host.stage ≠ .loading ∧ next.gConfig = host.gConfig)
  | loads {read : ReadFile} {random : Random} (acted : action = .load read random)
      (result : next = host.load codec read random)
  | swaps (due : host.stage = .complete) (gConfig : next.gConfig = host.gConfig)
      (config : next.disk.config = some (codec.marshalIndent host.gConfig))

theorem stepped {codec : Codec (List Byte)} {host : Host Byte} (saves : Saves codec host) (action : Action) :
    Saves codec (step codec host action) ∧ Stepped codec host action (step codec host action) := by
  unfold step
  split
  · exact ⟨saves_of_stage (by simp), .aside rfl (by simp)⟩
  · refine ⟨saves_of_stage ?_, .loads rfl rfl⟩
    simp only [Host.load]
    split <;> simp
  next making => exact ⟨saves_of_stage (by simp), .aside rfl fun _ => ⟨by simp [making], rfl⟩⟩
  next opening =>
    simp only [Host.openTmp]
    split
    · refine ⟨⟨?_, by simp⟩, .aside rfl fun _ => ⟨by simp [opening], rfl⟩⟩
      rintro remaining opened
      cases opened
      exact ⟨[], rfl, rfl⟩
    · exact ⟨saves_of_stage (by simp), .aside rfl fun _ => ⟨by simp [opening], rfl⟩⟩
  -- a write takes a prefix of what remains; the file holds the rest of the document
  next count remaining writing =>
    obtain ⟨written, tmp, whole⟩ := saves.part remaining writing
    refine ⟨⟨?_, by simp [Host.write]⟩, .aside rfl fun _ => ⟨by simp [writing], rfl⟩⟩
    rintro rest advanced
    cases advanced
    refine ⟨written ++ remaining.take count, by simp [Host.write, tmp], ?_⟩
    rw [List.append_assoc, List.take_append_drop]
    exact whole
  next writing => exact ⟨saves_of_stage (by simp), .aside rfl fun _ => ⟨by simp [writing], rfl⟩⟩
  next writing =>
    obtain ⟨written, tmp, whole⟩ := saves.part [] writing
    rw [List.append_nil] at whole
    refine ⟨⟨by simp, fun _ => ?_⟩, .aside rfl fun _ => ⟨by simp [writing], rfl⟩⟩
    rw [← whole]
    exact tmp
  next succeeds due =>
    have tmp := saves.whole due
    cases succeeds with
    | true =>
        simp only [Host.rename, tmp]
        exact ⟨saves_of_stage (by simp), .swaps due rfl rfl⟩
    | false => exact ⟨saves_of_stage (by simp [Host.rename]), .aside rfl fun _ => ⟨by simp [due], rfl⟩⟩
  · exact ⟨saves, .aside rfl fun past => ⟨past, rfl⟩⟩

/-! ## The identity of a process and of its file -/

/-- A process that has loaded its configuration has a RouterID, and it is the stored one as
soon as one is stored. -/
structure Agrees (codec : Codec (List Byte)) (host : Host Byte) : Prop where
  named : host.stage ≠ .loading → host.gConfig.routerID ≠ ""
  same : host.stage ≠ .loading → (host.stored codec).routerID ≠ "" →
    SameIdentity host.gConfig (host.stored codec)

theorem start_agrees (codec : Codec (List Byte)) (disk : Disk Byte) : Agrees codec (.start disk) where
  named := by simp [Host.start]
  same := by simp [Host.start]

theorem SameIdentity.refl (config : Config) : SameIdentity config config := ⟨rfl, rfl⟩

theorem load_named (codec : Codec (List Byte)) (host : Host Byte) (read : ReadFile) (random : Random) :
    (host.load codec read random).gConfig.routerID ≠ "" :=
  loadConfig_named codec ⟨host.disk.config, .initial⟩ ⟨read, random⟩

theorem load_agrees (codec : Codec (List Byte)) (host : Host Byte) (random : Random) :
    Agrees codec (host.load codec .answers random) where
  named := fun _ => load_named codec host .answers random
  same := fun _ named => fillConfig_named named random

/-- A step keeps the identity that is stored, and the process with it. -/
theorem step_agrees {codec : Codec (List Byte)} {host next : Host Byte} {action : Action}
    (did : Stepped codec host action next) (agrees : Agrees codec host)
    (answers : ∀ read random, action = .load read random → read = .answers) :
    Agrees codec next ∧
      ((host.stored codec).routerID ≠ "" → SameIdentity (next.stored codec) (host.stored codec)) := by
  cases did with
  | aside config loaded =>
      have stored : next.stored codec = host.stored codec := by rw [Host.stored, config, Host.stored]
      refine ⟨⟨fun past => ?_, fun past => ?_⟩, fun _ => by rw [stored]; exact SameIdentity.refl _⟩
      · obtain ⟨before, same⟩ := loaded past
        rw [same]
        exact agrees.named before
      · obtain ⟨before, same⟩ := loaded past
        rw [same, stored]
        exact agrees.same before
  | @loads read random acted result =>
      -- a read that fails would start a new identity
      obtain rfl := answers read random acted
      subst result
      exact ⟨load_agrees codec host random, fun _ => SameIdentity.refl _⟩
  | swaps due gConfig config =>
      have stored : next.stored codec = host.gConfig := by
        rw [Host.stored, config]
        exact codec.unmarshal_marshalIndent _ _
      have past : host.stage ≠ .loading := by simp [due]
      refine ⟨⟨fun _ => ?_, fun _ _ => ?_⟩, fun named => ?_⟩
      · rw [gConfig]
        exact agrees.named past
      · rw [stored, gConfig]
        exact SameIdentity.refl _
      · rw [stored]
        exact agrees.same past named

/-! ## Runs -/

theorem run_saves (codec : Codec (List Byte)) (disk : Disk Byte) (actions : List Action) :
    Saves codec (run (step codec) (.start disk) actions) :=
  (invariant (Saves codec) (fun _ action saves => (stepped saves action).1) (start_saves codec disk) actions).1

/-- Every load of a run is told what is in the file. -/
def ReadsAnswer (actions : List Action) : Prop :=
  ∀ read random, .load read random ∈ actions → read = .answers

theorem run_agrees (codec : Codec (List Byte)) {host : Host Byte} (saves : Saves codec host)
    (agrees : Agrees codec host) {actions : List Action} (reads : ReadsAnswer actions) :
    Agrees codec (run (step codec) host actions) ∧
      ((host.stored codec).routerID ≠ "" →
        SameIdentity ((run (step codec) host actions).stored codec) (host.stored codec)) := by
  induction actions generalizing host with
  | nil => exact ⟨agrees, fun _ => SameIdentity.refl _⟩
  | cons action rest ih =>
      obtain ⟨savesNext, did⟩ := stepped saves action
      obtain ⟨agreesNext, same⟩ := step_agrees did agrees fun read random acted =>
        reads read random (acted ▸ List.mem_cons_self)
      obtain ⟨final, later⟩ := ih savesNext agreesNext fun read random member =>
        reads read random (List.mem_cons_of_mem _ member)
      refine ⟨final, fun named => ?_⟩
      have first := same named
      exact (later (first.1 ▸ named)).trans first

/-- Killed at any point and with saves that fail at any step, the plugin keeps the identity
and the token that are once stored, and every process that has loaded runs with them. -/
theorem run_keepsStored (codec : Codec (List Byte)) (disk : Disk Byte) (earlier later : List Action)
    (reads : ReadsAnswer (earlier ++ later))
    (named : ((run (step codec) (.start disk) earlier).stored codec).routerID ≠ "") :
    SameIdentity ((run (step codec) (.start disk) (earlier ++ later)).stored codec)
        ((run (step codec) (.start disk) earlier).stored codec) ∧
      ((run (step codec) (.start disk) (earlier ++ later)).stage ≠ .loading →
        SameIdentity (run (step codec) (.start disk) (earlier ++ later)).gConfig
          ((run (step codec) (.start disk) earlier).stored codec)) := by
  have before := (run_agrees codec (start_saves codec disk) (start_agrees codec disk)
    fun read random member => reads read random (List.mem_append_left later member)).1
  obtain ⟨after, same⟩ := run_agrees codec (run_saves codec disk earlier) before
    fun read random member => reads read random (List.mem_append_right earlier member)
  rw [run_append]
  refine ⟨same named, fun past => ?_⟩
  have stored := same named
  exact (after.same past (stored.1 ▸ named)).trans stored

/-- A codec whose documents can break off after any member. -/
def memberCodec : Codec (List (String × Json)) where
  marshalIndent config := [("APIToken", .str config.apiToken), ("RouterID", .str config.routerID),
    ("PollIntervalSeconds", .int config.pollIntervalSeconds), ("MDNSDisabled", .bool config.mdnsDisabled)]
  unmarshal members base := documentCodec.unmarshal (.obj members) base
  unmarshal_marshalIndent _ _ := rfl

/-- Killed in its first save, then a start whose save goes through. -/
def killedOnce : List Action :=
  [.load .answers zeroBytes, .mkdirAll true, .openTmp true, .write 2, .restart, .load .answers zeroBytes,
    .mkdirAll false, .openTmp true, .write 3, .write 3, .close, .rename true]

/-- A start beside a full disk, and one that is killed in between. -/
def troubledStarts : List Action := [.restart, .restart, .load .answers (Vector.replicate 32 1), .openTmp false]

theorem run_keepsStored_killedOnce :
    SameIdentity ((run (step memberCodec) (.start ⟨false, none, none⟩) (killedOnce ++ troubledStarts)).stored
        memberCodec) ((run (step memberCodec) (.start ⟨false, none, none⟩) killedOnce).stored memberCodec) ∧
      ((run (step memberCodec) (.start ⟨false, none, none⟩) (killedOnce ++ troubledStarts)).stage ≠ .loading →
        SameIdentity (run (step memberCodec) (.start ⟨false, none, none⟩) (killedOnce ++ troubledStarts)).gConfig
          ((run (step memberCodec) (.start ⟨false, none, none⟩) killedOnce).stored memberCodec)) := by
  refine run_keepsStored memberCodec ⟨false, none, none⟩ killedOnce troubledStarts ?_ (by decide)
  intro read random member
  simp only [killedOnce, troubledStarts, List.cons_append, List.nil_append, List.mem_cons, List.not_mem_nil,
    reduceCtorEq, Action.load.injEq, false_or, or_false] at member
  rcases member with ⟨rfl, -⟩ | ⟨rfl, -⟩ | ⟨rfl, -⟩ <;> rfl

/-- The file is the first one or a whole document with a RouterID. -/
def WholeFile (codec : Codec (List Byte)) (disk : Disk Byte) (host : Host Byte) : Prop :=
  host.disk.config = disk.config ∨
    ∃ config : Config, config.routerID ≠ "" ∧ host.disk.config = some (codec.marshalIndent config)

structure Writes (codec : Codec (List Byte)) (disk : Disk Byte) (host : Host Byte) : Prop where
  saves : Saves codec host
  named : host.stage ≠ .loading → host.gConfig.routerID ≠ ""
  file : WholeFile codec disk host

theorem step_writes {codec : Codec (List Byte)} {disk : Disk Byte} {host : Host Byte}
    (writes : Writes codec disk host) (action : Action) : Writes codec disk (step codec host action) := by
  obtain ⟨saves, did⟩ := stepped writes.saves action
  generalize step codec host action = next at saves did
  cases did with
  | aside config loaded =>
      refine ⟨saves, fun past => ?_, ?_⟩
      · obtain ⟨before, same⟩ := loaded past
        rw [same]
        exact writes.named before
      · rw [WholeFile, config]
        exact writes.file
  | @loads read random acted result =>
      subst result
      exact ⟨saves, fun _ => load_named codec host read random, writes.file⟩
  | swaps due gConfig config =>
      have past := writes.named (by simp [due])
      exact ⟨saves, fun _ => gConfig ▸ past, Or.inr ⟨_, past, config⟩⟩

/-- However reads and saves go and wherever the process is killed, the file is at every
moment the first one or a whole document with a RouterID. -/
theorem run_whole (codec : Codec (List Byte)) (disk : Disk Byte) (actions : List Action) :
    WholeFile codec disk (run (step codec) (.start disk) actions) := by
  have start : Writes codec disk (.start disk) := ⟨start_saves codec disk, by simp [Host.start], Or.inl rfl⟩
  exact (invariant (Writes codec disk) (fun _ action writes => step_writes writes action) start actions).1.file

/-- A start that nothing disturbs leaves what `loadConfig` leaves. -/
theorem run_undisturbed (codec : Codec (List Byte)) (disk : Disk Byte) (first : ReadFile × Random) :
    let whole := loadConfig codec ⟨disk.config, .initial⟩ ⟨first.1, first.2⟩
    let after := run (step codec) (.start disk) [.load first.1 first.2, .mkdirAll true, .openTmp true,
      .write (codec.marshalIndent whole.gConfig).length, .close, .rename true]
    after.disk.config = whole.file ∧ after.gConfig = whole.gConfig ∧ after.stage = .loaded := by
  obtain ⟨read, random⟩ := first
  cases dirty : (fillConfig (decodeConfig codec disk.config read) random).2 with
  | true =>
      simp [step, Host.start, Host.load, Host.openTmp, Host.write, Host.rename, loadConfig, dirty]
  | false => simp [step, Host.start, Host.load, loadConfig, dirty]

end SprHomeAssistant.Plugin.ConfigFile

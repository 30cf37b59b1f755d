import SprHomeAssistant.Library.Runs
import SprHomeAssistant.Json

/-! The plugin's configuration and the file it survives in.

Every start of the plugin reads the file into the defaults, fills in what is missing
and writes the file again when it filled anything in.
-/

set_option autoImplicit false

namespace SprHomeAssistant.Plugin
open Library.Runs

structure Config where
  apiToken : String
  routerID : String
  pollIntervalSeconds : Int
  mdnsDisabled : Bool
  deriving DecidableEq

def Config.initial : Config := ⟨"", "", 10, false⟩

/-- `encoding/json` on `Config`. Decoding overwrites the fields that the bytes name, as far
as it gets; its error is not looked at. -/
structure Codec (Bytes : Type) where
  marshalIndent : Config → Bytes
  unmarshal : Bytes → Config → Config
  unmarshal_marshalIndent : ∀ config base, unmarshal (marshalIndent config) base = config

/-! ## Tokens -/

def urlAlphabet : List Char :=
  "ABCDEFGHIJKLMNOPQRSTUVWXYZabcdefghijklmnopqrstuvwxyz0123456789-_".toList

def urlLetter (sextet : Nat) : Char := urlAlphabet.getD (sextet % 64) 'A'

/-- `base64.RawURLEncoding`. -/
def rawURLEncode : List UInt8 → List Char
  | [] => []
  | [a] => [urlLetter (a.toNat / 4), urlLetter (a.toNat * 16)]
  | [a, b] =>
      [urlLetter (a.toNat / 4), urlLetter (a.toNat * 16 + b.toNat / 16), urlLetter (b.toNat * 4)]
  | a :: b :: c :: rest =>
      urlLetter (a.toNat / 4) :: urlLetter (a.toNat * 16 + b.toNat / 16) ::
        urlLetter (b.toNat * 4 + c.toNat / 64) :: urlLetter c.toNat :: rawURLEncode rest

abbrev Random := Vector UInt8 32

def genToken (random : Random) : String := String.ofList (rawURLEncode random.toList)

/-- `genToken()[:16]`. -/
def genRouterID (random : Random) : String := String.ofList ((genToken random).toList.take 16)

theorem genRouterID_nonempty (random : Random) : genRouterID random ≠ "" := by
  intro empty
  have letters : (rawURLEncode random.toList).take 16 = [] := by
    have := congrArg String.toList empty
    simpa [genRouterID, genToken] using this
  have length : random.toList.length = 32 := by simp
  generalize random.toList = bytes at letters length
  match bytes, length with
  | _ :: _ :: _ :: _, _ => simp [rawURLEncode] at letters

/-! ## Starts -/

/-- How `os.ReadFile` goes: it tells what is there, or fails for another reason. -/
inductive ReadFile where
  | answers
  | fails
  deriving DecidableEq

structure Start where
  read : ReadFile
  random : Random

/-- What outlives a process, and the configuration of the process that runs. -/
structure Host (Bytes : Type) where
  file : Option Bytes
  gConfig : Config

variable {Bytes : Type}

/-- `loadConfig` up to the save: the configuration, and whether anything was filled in. -/
def fillConfig (config : Config) (random : Random) : Config × Bool :=
  let polled := if config.pollIntervalSeconds ≤ 0 then { config with pollIntervalSeconds := 10 } else config
  let named := if polled.routerID = "" then { polled with routerID := genRouterID random } else polled
  (named, config.pollIntervalSeconds ≤ 0 || polled.routerID = "")

def decodeConfig (codec : Codec Bytes) (file : Option Bytes) (read : ReadFile) : Config :=
  match read, file with
  | .answers, some bytes => codec.unmarshal bytes .initial
  -- the error is not looked at: a read that fails is taken for a missing file
  | .answers, none => .initial
  | .fails, _ => .initial

/-- `loadConfig` in a new process. -/
def loadConfig (codec : Codec Bytes) (host : Host Bytes) (start : Start) : Host Bytes :=
  let filled := fillConfig (decodeConfig codec host.file start.read) start.random
  { file := if filled.2 then some (codec.marshalIndent filled.1) else host.file
    gConfig := filled.1 }

/-- The configuration that the file holds. -/
def Host.stored (codec : Codec Bytes) (host : Host Bytes) : Config :=
  decodeConfig codec host.file .answers

/-! ## What a start keeps -/

theorem fillConfig_named {config : Config} (named : config.routerID ≠ "") (random : Random) :
    (fillConfig config random).1.routerID = config.routerID ∧
      (fillConfig config random).1.apiToken = config.apiToken := by
  unfold fillConfig
  split <;> simp [named]

theorem fillConfig_initial (random : Random) :
    fillConfig .initial random = (⟨"", genRouterID random, 10, false⟩, true) := rfl

theorem fillConfig_clean {config : Config} {random : Random}
    (clean : (fillConfig config random).2 = false) : (fillConfig config random).1 = config := by
  unfold fillConfig at clean ⊢
  simp only [Bool.or_eq_false_iff, decide_eq_false_iff_not] at clean
  simp only [clean.1, if_false] at clean ⊢
  simp [clean.2]

/-- However a start goes, it leaves the configuration it runs with in the file. -/
theorem loadConfig_stored (codec : Codec Bytes) (host : Host Bytes) (start : Start) :
    (loadConfig codec host start).stored codec = (loadConfig codec host start).gConfig := by
  cases dirty : (fillConfig (decodeConfig codec host.file start.read) start.random).2 with
  | true =>
      simp only [loadConfig, dirty, if_true]
      exact codec.unmarshal_marshalIndent _ _
  | false =>
      simp only [loadConfig, Host.stored, dirty, fillConfig_clean dirty, Bool.false_eq_true, if_false]
      -- the defaults have no identity, so only a file that was decoded leaves nothing to fill in
      cases read : start.read with
      | answers => rfl
      | fails => simp [read, decodeConfig, fillConfig_initial] at dirty

/-- Whatever was decoded, a start ends with a RouterID. -/
theorem loadConfig_named (codec : Codec Bytes) (host : Host Bytes) (start : Start) :
    (loadConfig codec host start).gConfig.routerID ≠ "" := by
  unfold loadConfig fillConfig
  dsimp only
  generalize decodeConfig codec host.file start.read = config
  by_cases missing : config.routerID = ""
  · -- the poll interval is filled in first and leaves the RouterID as it was
    have polled : (if config.pollIntervalSeconds ≤ 0 then { config with pollIntervalSeconds := 10 }
        else config).routerID = "" := by split <;> exact missing
    rw [if_pos polled]
    exact genRouterID_nonempty start.random
  · have polled : (if config.pollIntervalSeconds ≤ 0 then { config with pollIntervalSeconds := 10 }
        else config).routerID ≠ "" := by split <;> exact missing
    rw [if_neg polled]
    exact polled

def SameIdentity (a b : Config) : Prop := a.routerID = b.routerID ∧ a.apiToken = b.apiToken

/-- A start that keeps a stored identity: its read is answered, or the router draws the
stored identity once more and has no token to lose. -/
def ReadsIdentity (codec : Codec Bytes) (host : Host Bytes) (start : Start) : Prop :=
  start.read = .fails → (host.stored codec).routerID = "" ∨
    SameIdentity ⟨"", genRouterID start.random, 10, false⟩ (host.stored codec)

theorem loadConfig_sameIdentity_iff (codec : Codec Bytes) {host : Host Bytes}
    (named : (host.stored codec).routerID ≠ "") (start : Start) :
    SameIdentity (loadConfig codec host start).gConfig (host.stored codec) ↔
      ReadsIdentity codec host start := by
  unfold loadConfig ReadsIdentity
  cases read : start.read with
  | answers => exact iff_of_true (fillConfig_named named start.random) nofun
  | fails => simp [decodeConfig, fillConfig_initial, named]

/-! ## Runs of starts -/

/-- Once an identity is stored, every later start runs with it and leaves it stored,
the token with it. -/
def KeepsIdentity (codec : Codec Bytes) (host : Host Bytes) (starts : List Start) : Prop :=
  ∀ earlier later rest, starts = earlier ++ later ++ rest →
    let stored := (run (loadConfig codec) host earlier).stored codec
    let reached := run (loadConfig codec) host (earlier ++ later)
    stored.routerID ≠ "" →
      SameIdentity (reached.stored codec) stored ∧
        (later ≠ [] → reached.gConfig.routerID = stored.routerID)

theorem SameIdentity.trans {a b c : Config} (left : SameIdentity a b) (right : SameIdentity b c) :
    SameIdentity a c :=
  ⟨left.1.trans right.1, left.2.trans right.2⟩

theorem run_sameIdentity (codec : Codec Bytes) {host : Host Bytes}
    (named : (host.stored codec).routerID ≠ "") {starts : List Start}
    (reads : ∀ t ∈ transitions (loadConfig codec) host starts, ReadsIdentity codec t.before t.action) :
    SameIdentity ((run (loadConfig codec) host starts).stored codec) (host.stored codec) := by
  induction starts generalizing host with
  | nil => exact ⟨rfl, rfl⟩
  | cons start rest ih =>
      have first := (loadConfig_sameIdentity_iff codec named start).mpr (reads _ List.mem_cons_self)
      rw [← loadConfig_stored] at first
      have later := ih (first.1 ▸ named) fun t member => reads t (List.mem_cons_of_mem _ member)
      exact later.trans first

/-- A run of starts keeps its identity exactly when none of its reads fails while an
identity is stored (or the failure happens to change nothing). -/
theorem starts_keepIdentity_iff (codec : Codec Bytes) (host : Host Bytes) (starts : List Start) :
    KeepsIdentity codec host starts ↔
      ∀ t ∈ transitions (loadConfig codec) host starts, ReadsIdentity codec t.before t.action := by
  constructor
  · intro keeps t member
    obtain ⟨earlier, rest, rfl, before, _⟩ := mem_transitions.mp member
    by_cases named : (t.before.stored codec).routerID = ""
    · exact fun _ => Or.inl named
    · rw [← loadConfig_sameIdentity_iff codec named, ← loadConfig_stored, before]
      rw [before] at named
      have kept := (keeps earlier [t.action] rest (by simp) named).1
      rwa [run_concat] at kept
  · rintro reads earlier later rest rfl stored reached named
    have same : SameIdentity (reached.stored codec) stored := by
      simp only [transitions_append, List.mem_append] at reads
      simp only [reached, run_append]
      exact run_sameIdentity codec named fun t member => reads t (Or.inl (Or.inr member))
    refine ⟨same, fun some => ?_⟩
    -- the process that runs is the one that the last start left
    obtain ⟨first, last, rfl⟩ := (List.eq_nil_or_concat later).resolve_left some
    simp only [reached, List.concat_eq_append, ← List.append_assoc, run_concat] at same ⊢
    rw [← loadConfig_stored]
    exact same.1

/-- A codec on documents: decoding overwrites the fields that a document has. -/
def documentCodec : Codec Json where
  marshalIndent config := .obj [("APIToken", .str config.apiToken), ("RouterID", .str config.routerID),
    ("PollIntervalSeconds", .int config.pollIntervalSeconds), ("MDNSDisabled", .bool config.mdnsDisabled)]
  unmarshal document base :=
    match document with
    | .obj fields =>
        { apiToken := match fields.lookup "APIToken" with | some (.str s) => s | _ => base.apiToken
          routerID := match fields.lookup "RouterID" with | some (.str s) => s | _ => base.routerID
          pollIntervalSeconds := match fields.lookup "PollIntervalSeconds" with
            | some (.int n) => n
            | _ => base.pollIntervalSeconds
          mdnsDisabled := match fields.lookup "MDNSDisabled" with
            | some (.bool b) => b
            | _ => base.mdnsDisabled }
    | _ => base
  unmarshal_marshalIndent _ _ := rfl

def zeroBytes : Random := Vector.replicate 32 0

/-- A read that fails once makes a new identity and drops the token. -/
theorem failed_read_replaces_identity :
    ¬ ∀ (Bytes : Type) (codec : Codec Bytes) (host : Host Bytes) (starts : List Start),
      KeepsIdentity codec host starts := by
  intro all
  let host : Host Json :=
    ⟨some (documentCodec.marshalIndent ⟨"token", "router", 10, false⟩), .initial⟩
  have keeps := all Json documentCodec host [⟨.fails, zeroBytes⟩] [] [⟨.fails, zeroBytes⟩] [] rfl
    (by decide)
  exact absurd keeps.1.1 (by decide)

end SprHomeAssistant.Plugin

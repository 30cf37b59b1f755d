import SprHomeAssistant.System.Home
import SprHomeAssistant.System.WakeService

/-! The wake buttons from the device table of the router to the packets on its LAN.

The buttons are made for the devices of the polls, and stay when a device goes or the plugin
starts again. A press asks the plugin as it then is.
-/

set_option autoImplicit false

namespace SprHomeAssistant.System
open Go Library Library.Runs Plugin Integration

/-! ## A press -/

/-- `SprWakeButton.async_press`. -/
def asyncPress (api : SprApiClient) (button : Entity) (reply : Reply) : Woken where
  asked := [api.wakeRequest button.mac]
  outcome :=
    match SprApiClient.get reply with
    | .ok _ => .ok ()
    | .error (.sprAuthError message) | .error (.sprApiError message) =>
        .error (.homeAssistantError ("Wake on LAN failed: " ++ message))
    | .error err => .error (.uncaught err)

/-- The addresses that a packet goes to, with the last known address of the device. -/
def wakeTargets (lan : Lan) (ip : String) : List String :=
  Plugin.broadcast :: (lan.ipv4 ip).toList.map fun address => address ++ ":9"

def reaches (lan : Lan) (payload : List UInt8) (target : String) : Bool :=
  (lan.dial target).isNone && (lan.write target payload).isNone

def dialled (lan : Lan) (payload : List UInt8) (targets : List String) : List Datagram :=
  (targets.filter fun target => (lan.dial target).isNone).map (Datagram.mk · payload)

theorem sendTarget_spec (lan : Lan) (payload : List UInt8) (acc : Sending) (target : String) :
    (sendTarget lan payload acc target).datagrams = acc.datagrams ++ dialled lan payload [target] ∧
      (sendTarget lan payload acc target).sent = (acc.sent || reaches lan payload target) ∧
      ((sendTarget lan payload acc target).sent = true ∨
        (sendTarget lan payload acc target).lastErr.isSome = true) := by
  unfold sendTarget reaches dialled
  cases refused : lan.dial target with
  | some err => simp [refused]
  | none => cases lan.write target payload <;> simp [refused]

/-- What the targets get, and whether some write went well; where none did, an error is kept. -/
theorem sendTargets_spec (lan : Lan) (payload : List UInt8) (targets : List String) {acc : Sending}
    (tried : acc.sent = true ∨ acc.lastErr.isSome = true ∨ targets ≠ []) :
    (targets.foldl (sendTarget lan payload) acc).datagrams = acc.datagrams ++ dialled lan payload targets ∧
      (targets.foldl (sendTarget lan payload) acc).sent = (acc.sent || targets.any (reaches lan payload)) ∧
      ((targets.foldl (sendTarget lan payload) acc).sent = true ∨
        (targets.foldl (sendTarget lan payload) acc).lastErr.isSome = true) := by
  induction targets generalizing acc with
  | nil => simpa [dialled] using tried
  | cons target rest ih =>
      obtain ⟨own, reached, either⟩ := sendTarget_spec lan payload acc target
      obtain ⟨datagrams, sent, kept⟩ := ih (either.imp_right Or.inl)
      rw [List.foldl_cons]
      refine ⟨?_, ?_, kept⟩
      · rw [datagrams, own, List.append_assoc, dialled, dialled, dialled, ← List.map_append, ← List.filter_append,
          List.singleton_append]
      · rw [sent, reached, List.any_cons, Bool.or_assoc]

/-- `sendWOL` for an address that parses. -/
theorem sendWOL_spec (lan : Lan) {mac : String} {hw : List UInt8} (parsed : Plugin.parseMAC mac = .ok hw) (ip : String) :
    (sendWOL lan mac ip).datagrams = dialled lan (magicPacket hw) (wakeTargets lan ip) ∧
      ((sendWOL lan mac ip).err = none ↔ ∃ target ∈ wakeTargets lan ip, reaches lan (magicPacket hw) target = true) := by
  have tried : wakeTargets lan ip ≠ [] := List.cons_ne_nil _ _
  obtain ⟨datagrams, sent, either⟩ :=
    @sendTargets_spec lan (magicPacket hw) (wakeTargets lan ip) ⟨[], none, false⟩ (Or.inr (Or.inr tried))
  have whole : sendWOL lan mac ip =
      let acc := (wakeTargets lan ip).foldl (sendTarget lan (magicPacket hw)) ⟨[], none, false⟩
      ⟨acc.datagrams, if acc.sent then none else acc.lastErr⟩ := by
    unfold sendWOL
    simp only [parsed]
    rfl
  rw [whole]
  refine ⟨datagrams, ?_⟩
  rw [Bool.false_or] at sent
  rw [← List.any_eq_true, ← sent]
  -- where nothing was sent there is an error, since there is at least the broadcast target
  constructor
  · intro none
    rcases either with reached | failed
    · exact reached
    · by_contra missed
      simp only [missed, if_false] at none
      simp [none] at failed
  · intro reached
    simp only [reached, if_true]

/-! ## The MAC of a button in the query -/

theorem macLetter_plain {c : Char} (letter : isMacLetter c = true) : isChanged c = false ∧ c ≠ '%' := by
  have checked := ascii_of_checked (p := fun c => !isMacLetter c || (!isChanged c && c != '%')) (by decide)
    (isMacLetter_ascii letter).1
  simpa [letter] using checked

theorem textEscape_literal {c : Char} (literal : c ≠ '%') (rest : List Char) : textEscape (c :: rest) = none := by
  unfold textEscape
  split
  next percent high low more same =>
    obtain ⟨rfl, -⟩ := List.cons.inj same
    simp [literal]
  next => rfl

theorem macLetters_plain {cs : List Char} (letters : ∀ c ∈ cs, isMacLetter c = true) : plainText cs = true := by
  rw [plainText, Bool.and_eq_true, List.all_eq_true]
  refine ⟨fun c member => by simp [(macLetter_plain (letters c member)).1], ?_⟩
  induction cs with
  | nil => rfl
  | cons c rest ih =>
      obtain ⟨own, others⟩ := List.forall_mem_cons.mp letters
      rw [Escapes.plain, textEscape_literal (macLetter_plain own).2, ih others]
      rfl

theorem Canonical.read {mac : String} (canonical : Canonical mac) (client : HttpClient) (api : SprApiClient) :
    readMac client (api.wakeRequest mac) = bytesOf mac := by
  have letters := matchPairs_letters canonical.valid
  rw [canonical.normal] at letters
  exact (readMac_iff client api mac).mpr (macLetters_plain letters)

/-! ## A press, end to end -/

def okAnswer : String := "\x7b\"ok\":true\x7d\n"

theorem get_ok {loads : String → Except PyError Json} {body : String} {document : Json}
    (reads : loads body = .ok document) :
    SprApiClient.get (answerReply loads ⟨200, true, body⟩) = .ok document := by
  simp only [SprApiClient.get, answerReply, Response.json, reads]
  rfl

theorem asyncPress_ok {loads : String → Except PyError Json} {document : Json} (reads : loads okAnswer = .ok document)
    (api : SprApiClient) (button : Entity) :
    (asyncPress api button (answerReply loads ⟨200, true, okAnswer⟩)).outcome = .ok () := by
  simp only [asyncPress, get_ok reads]

theorem asyncPress_refused (loads : String → Except PyError Json) (err : String) (api : SprApiClient) (button : Entity) :
    ∃ message, (asyncPress api button (answerReply loads (httpError err 500))).outcome =
      .error (.homeAssistantError message) := ⟨_, rfl⟩

/-- Some packet left the router. -/
def Leaves (lan : Lan) (datagrams : List Datagram) : Prop :=
  ∃ datagram ∈ datagrams, lan.write datagram.target datagram.payload = none

/-- The plugin's packets and answer for its own spelling of a MAC. -/
theorem handleWake_canonical (lan : Lan) (devices : Slice TrackedDevice) {mac : String} (canonical : Canonical mac) :
    ∃ hw, Net.hardwareString hw = mac ∧ hw.length = 6 ∧
      (Plugin.handleWake lan devices (bytesOf mac)).datagrams =
        dialled lan (magicPacket hw) (wakeTargets lan (knownIP devices mac)) ∧
      ((Plugin.handleWake lan devices (bytesOf mac)).answer = ⟨200, true, okAnswer⟩ ∧
          Leaves lan (Plugin.handleWake lan devices (bytesOf mac)).datagrams ∨
        (∃ err, (Plugin.handleWake lan devices (bytesOf mac)).answer = httpError err 500) ∧
          ¬ Leaves lan (Plugin.handleWake lan devices (bytesOf mac)).datagrams) := by
  obtain ⟨hw, parsed, six, spelled⟩ := parseMAC_normalizeMAC canonical.valid
  rw [canonical.normal] at parsed spelled
  obtain ⟨datagrams, errors⟩ := sendWOL_spec lan parsed (knownIP devices mac)
  have leaves : (sendWOL lan mac (knownIP devices mac)).err = none ↔
      Leaves lan (sendWOL lan mac (knownIP devices mac)).datagrams := by
    rw [errors, datagrams]
    simp [Leaves, dialled, reaches, and_assoc]
  refine ⟨hw, spelled, six, ?_⟩
  simp only [Plugin.handleWake, text_bytesOf, canonical.normal, canonical.valid, if_true]
  -- the answer depends on the error alone
  generalize sendWOL lan mac (knownIP devices mac) = sent at datagrams leaves
  cases failed : sent.err with
  | none => exact ⟨datagrams, Or.inl ⟨rfl, leaves.mp failed⟩⟩
  | some err => exact ⟨datagrams, Or.inr ⟨⟨err, rfl⟩, fun left => by cases failed.symm.trans (leaves.mpr left)⟩⟩

/-- The plugin's part of a press. -/
def pressed (process : Process) (lan : Lan) (client : HttpClient) (api : SprApiClient) (button : Entity) : Waking :=
  Plugin.handleWake lan process.store.snapshot.devices (readMac client (api.wakeRequest button.mac))

/-- The packets are for one MAC and go to all of its targets that can be dialled; the press
raises, and only then Home Assistant's own error, when none has left the router. -/
structure WakesItsOwn (lan : Lan) (ip mac : String) (waking : Waking) (woken : Woken) : Prop where
  packets : ∃ hw payload, Net.hardwareString hw = mac ∧ IsMagicPacket hw payload ∧
    waking.datagrams = dialled lan payload (wakeTargets lan ip)
  succeeds : woken.outcome = .ok () ↔ Leaves lan waking.datagrams
  raises : woken.outcome ≠ .ok () → ∃ message, woken.outcome = .error (.homeAssistantError message)

theorem press_wakesItsOwn {loads : String → Except PyError Json} {document : Json}
    (reads : loads okAnswer = .ok document) {button : Entity} (canonical : Canonical button.mac) (process : Process)
    (lan : Lan) (client : HttpClient) (api : SprApiClient) :
    WakesItsOwn lan (knownIP process.store.snapshot.devices button.mac) button.mac
      (pressed process lan client api button)
      (asyncPress api button (answerReply loads (pressed process lan client api button).answer)) := by
  obtain ⟨hw, spelled, six, datagrams, answered⟩ := handleWake_canonical lan process.store.snapshot.devices canonical
  -- the MAC comes through the query as it is
  rw [← canonical.read client api, ← pressed] at datagrams answered
  have packets := (⟨hw, magicPacket hw, spelled, isMagicPacket six, datagrams⟩ :
    ∃ hw payload, Net.hardwareString hw = button.mac ∧ IsMagicPacket hw payload ∧
      (pressed process lan client api button).datagrams = dialled lan payload
        (wakeTargets lan (knownIP process.store.snapshot.devices button.mac)))
  rcases answered with ⟨ok, leaves⟩ | ⟨⟨err, refused⟩, stays⟩
  · have done := asyncPress_ok reads api button
    rw [← ok] at done
    exact ⟨packets, iff_of_true done leaves, fun raised => absurd done raised⟩
  · obtain ⟨message, raised⟩ := asyncPress_refused loads err api button
    rw [← refused] at raised
    exact ⟨packets, iff_of_false (by rw [raised]; exact nofun) stays, fun _ => ⟨message, raised⟩⟩

/-! ## Presses in a run -/

/-- Whenever a button is pressed, in any run of the plugin, its restarts, the polls and the
setups: the packets are for the button's own MAC, and the press succeeds exactly when one of
them has left the router. -/
theorem run_wakesItsOwn (ha : HomeAssistant) (keeps : KeepsCanonical ha) (clock : Time) (deeds : List Deed)
    (lan : Lan) (client : HttpClient) (api : SprApiClient) (loads : String → Except PyError Json) (document : Json)
    (reads : loads okAnswer = .ok document) :
    ∀ listener ∈ (run (Home.step ha) (.start clock) deeds).loaded.button, ∀ button ∈ listener.handed,
      WakesItsOwn lan (knownIP (run (Home.step ha) (.start clock) deeds).process.store.snapshot.devices button.mac)
        button.mac (pressed (run (Home.step ha) (.start clock) deeds).process lan client api button)
        (asyncPress api button (answerReply loads
          (pressed (run (Home.step ha) (.start clock) deeds).process lan client api button).answer)) :=
  fun listener held button handed =>
    press_wakesItsOwn reads ((run_spelled keeps clock deeds).buttons listener held button handed) _ lan client api

/-- Two stations get their buttons before the plugin starts again. -/
def buttonsOutlive : List Deed :=
  (oneRefresh distinctTable).map .plugin ++ [.poll 0 180000000, .setUpButton, .restart 5]

theorem buttonsOutlive_wakes :
    ∃ listener, (run (Home.step .documented) (.start 0) buttonsOutlive).loaded.button = some listener ∧
      listener.handed.length = 2 ∧ ∀ button ∈ listener.handed,
        WakesItsOwn openLan "" button.mac
          (pressed (.start 5) openLan .quoting (.make false "https://10.0.0.1" "t") button)
          (asyncPress (.make false "https://10.0.0.1" "t") button
            (answerReply (fun _ => .ok (.obj [("ok", .bool true)]))
              (pressed (.start 5) openLan .quoting (.make false "https://10.0.0.1" "t") button).answer)) := by
  have two : ((run (Home.step .documented) (.start 0) buttonsOutlive).loaded.button.any
      fun listener => decide (listener.handed.length = 2)) = true := by decide +kernel
  obtain ⟨listener, held, handed⟩ := (Option.any_eq_true _ _).mp two
  exact ⟨listener, held, of_decide_eq_true handed,
    run_wakesItsOwn .documented documented_keepsCanonical 0 buttonsOutlive openLan .quoting
      (.make false "https://10.0.0.1" "t") (fun _ => .ok (.obj [("ok", .bool true)])) _ rfl listener held⟩

end SprHomeAssistant.System

import SprHomeAssistant.Integration.WakeOnLan
import SprHomeAssistant.Plugin.Wake
import SprHomeAssistant.System.QueryText

/-! The wake service from the text of its call to the packets of the routers.

The service puts the MAC into the query of a URL as it is, and the plugin reads it by the
grammar of queries. In between the HTTP client quotes the URL, and the router's proxy hands
the query over.
-/

set_option autoImplicit false

namespace SprHomeAssistant.System
open Go Plugin Integration Library Library.Utf8

structure Router where
  lan : Lan
  devices : Slice TrackedDevice

/-- A loaded entry and the router that its requests reach. -/
structure ServedEntry where
  api : SprApiClient
  coordinator : SprCoordinator
  router : Router

/-- `r.URL.Query().Get("mac")`. -/
def readMac (client : HttpClient) (request : Request) : List UInt8 :=
  queryGet (parseQuery (client.sent request.path)) "mac"

def ServedEntry.wakes (entry : ServedEntry) (client : HttpClient) (mac : String) : Waking :=
  Plugin.handleWake entry.router.lan entry.router.devices (readMac client (entry.api.wakeRequest mac))

def answerReply (loads : String → Except PyError Json) (answer : HttpAnswer) : Reply :=
  .ok ⟨answer.status, answer.jsonType, .ok ⟨.ok answer.body, loads answer.body⟩⟩

def ServedEntry.loaded (entry : ServedEntry) (client : HttpClient) (loads : String → Except PyError Json)
    (mac : String) : LoadedEntry :=
  ⟨entry.api, entry.coordinator, answerReply loads (entry.wakes client mac).answer⟩

/-- A call of the service, with the routers' answers to its requests. -/
def callService (ha : HomeAssistant) (client : HttpClient) (loads : String → Except PyError Json)
    (entries : List ServedEntry) (text : String) : Woken :=
  Integration.handleWake ha (entries.map fun entry => entry.loaded client loads (ha.formatMac text)) text

/-- Every router reads the formatted MAC; packets go out for that MAC only, and a text that
is no MAC ends in an error. -/
structure WakesSpelled (ha : HomeAssistant) (client : HttpClient) (loads : String → Except PyError Json)
    (entries : List ServedEntry) (text : String) : Prop where
  read : ∀ entry ∈ entries, readMac client (entry.api.wakeRequest (ha.formatMac text)) =
    bytesOf (ha.formatMac text)
  packets : ∀ entry ∈ entries, ∀ datagram ∈ (entry.wakes client (ha.formatMac text)).datagrams,
    isMAC (ha.formatMac text) = true ∧
      ∃ hw, Net.hardwareString hw = normalizeMAC (ha.formatMac text) ∧ IsMagicPacket hw datagram.payload
  errors : isMAC (ha.formatMac text) = false →
    ∃ message, (callService ha client loads entries text).outcome = .error (.homeAssistantError message)

variable {ha : HomeAssistant} {client : HttpClient} {loads : String → Except PyError Json}

theorem readMac_iff (client : HttpClient) (api : SprApiClient) (mac : String) :
    readMac client (api.wakeRequest mac) = bytesOf mac ↔ plainText mac.toList = true :=
  queryGet_mac_iff client mac

/-- The packets of a router that reads a MAC as it is. -/
theorem wakes_datagrams {entry : ServedEntry} {mac : String}
    (read : readMac client (entry.api.wakeRequest mac) = bytesOf mac) :
    ∀ datagram ∈ (entry.wakes client mac).datagrams, isMAC mac = true ∧
      ∃ hw, Net.hardwareString hw = normalizeMAC mac ∧ IsMagicPacket hw datagram.payload := by
  intro datagram member
  rw [ServedEntry.wakes, read] at member
  cases valid : isMAC mac with
  | false =>
      rw [handleWake_invalid (by rw [text_bytesOf, valid])] at member
      cases member
  | true =>
      obtain ⟨hw, parsed, six, spelled⟩ := parseMAC_normalizeMAC valid
      rw [handleWake_datagrams (by rw [text_bytesOf, valid]), text_bytesOf] at member
      refine ⟨rfl, hw, spelled, ?_⟩
      rw [sendWOL_payload parsed _ datagram member]
      exact isMagicPacket six

/-- A router that reads no MAC answers with an error, which the client raises as its own. -/
theorem loaded_refuses {entry : ServedEntry} {mac : String}
    (read : readMac client (entry.api.wakeRequest mac) = bytesOf mac) (invalid : isMAC mac = false) :
    ∃ message, SprApiClient.get (entry.loaded client loads mac).reply = .error (.sprApiError message) := by
  have answered : (entry.wakes client mac).answer = httpError "invalid mac" 400 := by
    rw [ServedEntry.wakes, read, handleWake_invalid (by rw [text_bytesOf, invalid])]
  rw [ServedEntry.loaded, answered]
  exact ⟨_, rfl⟩

theorem wakeFirst_refused (mac : String) {entries : List LoadedEntry}
    (refused : ∀ entry ∈ entries, ∃ message, SprApiClient.get entry.reply = .error (.sprApiError message))
    (errors : List String) :
    ∃ message, (wakeFirst mac entries errors).outcome = .error (.homeAssistantError message) := by
  induction entries generalizing errors with
  | nil => exact ⟨_, rfl⟩
  | cons entry rest ih =>
      obtain ⟨⟨message, called⟩, others⟩ := List.forall_mem_cons.mp refused
      obtain ⟨text, stepped⟩ := wakeFirst_failed (.api message) called mac rest errors
      rw [stepped]
      exact ih others _

/-- The service wakes the MAC that its text spells, and nothing else, exactly when the
formatted text is plain. -/
theorem wakesSpelled_iff (ha : HomeAssistant) (client : HttpClient) (loads : String → Except PyError Json)
    {entries : List ServedEntry} (loaded : entries ≠ []) (text : String) :
    WakesSpelled ha client loads entries text ↔ plainText (ha.formatMac text).toList = true := by
  constructor
  · intro spelled
    obtain ⟨entry, rest, rfl⟩ := List.exists_cons_of_ne_nil loaded
    exact (readMac_iff client entry.api _).mp (spelled.read entry List.mem_cons_self)
  · intro plain
    have read := fun entry : ServedEntry => (readMac_iff client entry.api (ha.formatMac text)).mpr plain
    refine ⟨fun entry _ => read entry, fun entry _ => wakes_datagrams (read entry), fun invalid => ?_⟩
    simp only [callService, Integration.handleWake]
    split
    · exact ⟨_, rfl⟩
    · refine wakeFirst_refused _ (fun candidate member => ?_) []
      obtain ⟨entry, -, rfl⟩ := List.mem_map.mp (mem_of_mem_candidates member)
      exact loaded_refuses (read entry) invalid

/-- An entry whose router has no device and can send everywhere. -/
def openEntry : ServedEntry := ⟨.make false "https://10.0.0.1" "t", .initial, ⟨openLan, none⟩⟩

theorem wakesSpelled_dashes :
    [openEntry] ≠ [] ∧
      WakesSpelled .documented .quoting (fun _ => .ok .null) [openEntry] "AA-BB-CC-DD-EE-01" :=
  ⟨List.cons_ne_nil _ _,
    (wakesSpelled_iff .documented .quoting (fun _ => .ok .null) (List.cons_ne_nil openEntry []) _).mpr
      (by decide +kernel)⟩

/-- A text that is no MAC is cut at its number sign, and the router reads what is left. -/
theorem numberSign_wakes_prefix :
    ¬ ∀ (ha : HomeAssistant) (client : HttpClient) (loads : String → Except PyError Json)
      (entries : List ServedEntry) (text : String), entries ≠ [] → WakesSpelled ha client loads entries text := by
  intro all
  have spelled := all .documented .quoting (fun _ => .ok .null) [openEntry] "aa:bb:cc:dd:ee:01#nas"
    (List.cons_ne_nil _ _)
  have plain := (readMac_iff .quoting openEntry.api _).mp (spelled.read openEntry List.mem_cons_self)
  exact absurd plain (by decide +kernel)

end SprHomeAssistant.System

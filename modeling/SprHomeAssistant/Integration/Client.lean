import SprHomeAssistant.Python

/-! The client of the plugin behind the router's proxy, and the requests it sends.

A request is what leaves Home Assistant; a reply is whatever came back for it. The
functions take the reply as an argument, so that a caller states which request was
answered how.
-/

set_option autoImplicit false

namespace SprHomeAssistant.Integration

def proxyBase : String := "/plugins/home_assistant/ha/v1"

def discoveryPath : String := "/admin/custom_plugin/home_assistant/static/discovery.json"

/-- A GET request: the base URL that a client was made for, and what follows it. -/
structure Request where
  base : String
  path : String
  verifySsl : Bool
  authorization : Option String
  deriving DecidableEq

/-- A body once it was read, as text and as a document. -/
structure Body where
  text : Except PyError String
  loads : Except PyError Json

structure Response where
  status : Nat
  jsonType : Bool
  body : Except PyError Body

abbrev Reply := Except PyError Response

/-- The reply with a JSON document. -/
def jsonReply (text : String) (value : Json) : Reply := .ok ⟨200, true, .ok ⟨.ok text, .ok value⟩⟩

def Response.text (resp : Response) : Except PyError String := resp.body >>= Body.text

/-- `resp.json()`. It insists on the content type. -/
def Response.json (resp : Response) : Except PyError Json := do
  let body ← resp.body
  if resp.jsonType then body.loads else .error (.clientError "unexpected mimetype")

def Response.jsonAnyType (resp : Response) : Except PyError Json := resp.body >>= Body.loads

/-- `resp.raise_for_status()`. -/
def Response.raiseForStatus (resp : Response) : Except PyError Unit :=
  if 400 ≤ resp.status then .error (.clientError (toString resp.status)) else .ok ()

/-! ## Discovery -/

def discoveryRequest (url : String) : Request where
  base := rstripSlash url
  path := discoveryPath
  verifySsl := false
  authorization := none

/-- `aiohttp.ClientError`, `asyncio.TimeoutError` and `ValueError` become an `SprApiError`. -/
def wrapDiscovery (err : PyError) : PyError :=
  match err with
  | .valueError message => .sprApiError ("discovery fetch failed: " ++ message)
  | err =>
      match err.transport with
      | some message => .sprApiError ("discovery fetch failed: " ++ message)
      | none => err

def fetchDiscovery (reply : Reply) : Except PyError Json :=
  let data := do
    let resp ← reply
    resp.raiseForStatus
    resp.jsonAnyType
  match data with
  | .error err => .error (wrapDiscovery err)
  | .ok (.obj fields) =>
      if fields.lookup "product" = some (.str "spr") then .ok (.obj fields)
      else .error (.sprApiError "not an SPR router")
  | .ok _ => .error (.sprApiError "not an SPR router")

/-! ## The authenticated client -/

structure SprApiClient where
  verifySsl : Bool
  base : String
  token : String
  deriving DecidableEq

def clientBase (url : String) : String := rstripSlash url ++ proxyBase

/-- `SprApiClient(async_get_clientsession(hass, verify_ssl), url, token)`. -/
def SprApiClient.make (verifySsl : Bool) (url token : String) : SprApiClient :=
  ⟨verifySsl, clientBase url, token⟩

def SprApiClient.headers (api : SprApiClient) : Option String :=
  if api.token = "" then none else some ("Bearer " ++ api.token)

def SprApiClient.request (api : SprApiClient) (path : String) : Request where
  base := api.base
  path := path
  verifySsl := api.verifySsl
  authorization := api.headers

def SprApiClient.probeRequest (api : SprApiClient) : Request := api.request "/probe"

def SprApiClient.stateRequest (api : SprApiClient) : Request := api.request "/state"

def SprApiClient.wakeRequest (api : SprApiClient) (mac : String) : Request :=
  api.request ("/wake?mac=" ++ mac)

def SprApiClient.eventsRequest (api : SprApiClient) : Request := api.request "/events"

def excerpt (body : String) : String := String.ofList (body.toList.take 200)

/-- `_get`, given the reply to its request. -/
def SprApiClient.get (reply : Reply) : Except PyError Json :=
  match reply with
  | .error err =>
      match err.transport with
      | some message => .error (.sprApiError ("Error connecting to SPR: " ++ message))
      | none => .error err
  | .ok resp =>
      if resp.status = 401 || resp.status = 403 then
        .error (.sprAuthError "SPR rejected the API token")
      else if 400 ≤ resp.status then do
        let body ← resp.text
        .error (.sprApiError ("SPR API error " ++ toString resp.status ++ ": " ++ excerpt body))
      else resp.json

end SprHomeAssistant.Integration

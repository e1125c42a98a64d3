import Promotion.Client.Envelope
import Promotion.Http.Base64
import Promotion.Json.Writer
import Promotion.Work

/-! The client of the rules API: one request for each call, and a reading of what comes back. -/
namespace Promotion

structure Client where
  baseUrl : String
  token : Json
  timeout : Json
  maxRetries : Json
  base : Http.Url
  closed : Bool
  deriving DecidableEq

/-- What a client may be told; where there is null, the settings say the rest. -/
structure ClientOptions where
  baseUrl : Json
  token : Json
  timeout : Json
  maxRetries : Json

namespace ClientOptions

/-- Options that leave everything to the settings. -/
def none : ClientOptions := ⟨.null, .null, .null, .null⟩

end ClientOptions

namespace Client

/-- A new client; slashes at the end of its address do not count. -/
def create (settings : ActiveSettings) (options : ClientOptions) : Except RequestFault Client :=
  match if options.baseUrl.truthy then options.baseUrl else settings.apiBaseUrl with
  | .str address =>
    let baseUrl := Text.dropTrailing '/' address
    match (Http.Url.ofChars? baseUrl.toList).bind Http.Url.asBase with
    | none => .error .invalidUrl
    | some base => .ok {
        baseUrl
        token := options.token.orElse settings.apiToken
        timeout := options.timeout.orElse settings.apiTimeout
        maxRetries := options.maxRetries.orElse settings.apiMaxRetries
        base
        closed := false }
  | _ => .error .addressNotText

def close (c : Client) : Client := { c with closed := true }

/-- The header that shows the token; `Bearer` is put in front unless it is there. -/
def authHeader (c : Client) : Except RequestFault Http.Headers :=
  if !c.token.truthy then .ok []
  else
    match c.token with
    | .str token =>
      if Text.lower (String.ofList (token.toList.take 7)) = "bearer " then
        .ok [("Authorization", token)]
      else .ok [("Authorization", "Bearer " ++ token)]
    | _ => .error .tokenNotText

/-- The headers of every request. -/
def standardHeaders : Http.Headers := [("accept", "application/json")]

def isAscii (s : String) : Bool := s.toList.all fun c => decide (c.toNat < 0x80)

/-- A header of two values, both of which have to be texts of ASCII characters. -/
def checkHeader (name value : Json) : Except RequestFault (String × String) :=
  match name with
  | .str name =>
    if !isAscii name then .error .headerNotAscii
    else
      match value with
      | .str value => if isAscii value then .ok (name, value) else .error .headerNotAscii
      | _ => .error .headerValueNotText
  | _ => .error .headerNotText

/-- The headers of a request with an id; a header of exactly the same name replaces the id. -/
def headers (idHeader id : Json) (others : Http.Headers) : Except RequestFault Http.Headers := do
  let first := match others.find? fun header => Json.str header.1 = idHeader with
    | some header => Json.str header.2
    | none => id
  let first ← checkHeader idHeader first
  let others ← (others.filter fun header => header.1 != first.1).mapM fun header =>
    checkHeader (.str header.1) (.str header.2)
  pure (Http.Headers.override standardHeaders (first :: others))

/-- The header that shows user and password of an address. -/
def credentialsHeader (url : Http.Url) : Http.Headers :=
  match url.credentials? with
  | some (user, password) =>
    [("Authorization", "Basic " ++ String.ofList (Http.base64 (user ++ [0x3a] ++ password)))]
  | none => []

/-- An address that may be invalid. -/
def validUrl (url : Option Http.Url) : Except RequestFault Http.Url :=
  match url with
  | some url => .ok url
  | none => .error .invalidUrl

/-- The request for a call, if it can be put together and handed over. -/
def request? (c : Client) (method : Http.Method) (path : String) (query : Option (List Char))
    (idHeader id : Json) (others : Http.Headers) (body : String) :
    Except RequestFault Http.Request := do
  let url ← validUrl (c.base.join path.toList)
  let headers ← headers idHeader id others
  let url ← match query with
    | some query => validUrl (url.withQuery query)
    | none => pure url
  if c.closed then throw .closed
  pure ⟨method, url, Http.Headers.override headers (credentialsHeader url), body⟩

def logger : String := "promo_builder.services.promotion_rules_client"

/-- Makes the request of a call, counted and logged. -/
def call (c : Client) (endpoint : Endpoint) (path : String) (query : Option (List Char))
    (extra : Http.Headers) (body : String) : Work (Http.Request × Nat × ByteArray) := do
  let id ← Work.requestIdOrFresh
  let settings ← Work.settings
  let idHeader := settings.requestIdHeader
  if (NodeKey.ofJson? idHeader).isNone then throw (.request .headerNotKey)
  let auth ← Work.ofExcept .request c.authHeader
  let request ← Work.ofExcept .request
    (c.request? endpoint.method path query idHeader id (auth ++ extra) body)
  let reply ← Work.send request
  match reply with
  | .failure kind message =>
    Work.count fun m => m.countCall endpoint (.ofReply reply)
    Work.log ⟨.error, logger, s!"{endpoint.method.word} {path} failed: {message}"⟩
    throw (.api (.unreachable endpoint.method path kind message))
  | .response status body =>
    match request.url.schemeFault? with
    | some url => throw (.request (.noScheme url))
    | none => pure ()
    Work.count fun m => m.countCall endpoint (.ofReply reply)
    Work.log ⟨.debug, logger, s!"{endpoint.method.word} {path} -> {status}"⟩
    pure (request, status, body)

/-- The fault that a response with an error status tells of. -/
def refusal (request : Http.Request) (status : Nat) (payload : Option Json) (fallback : String) :
    ApiFault :=
  .refused status (payload.bind (Json.get? "message")) fallback request.url.text

/-- The envelope in a response with some value, where no value reads as null. -/
def envelope (request : Http.Request) (status : Nat) (payload : Option Json) (fallback : String) :
    Except ApiFault Envelope :=
  if Http.isError status then .error (refusal request status payload fallback)
  else
    match Envelope.ofJson (payload.getD .null) with
    | .invalid issues => .error (.unexpected status issues)
    | .valid envelope =>
      if envelope.success then .ok envelope
      else .error (.declined status envelope.message fallback)

/-- Hands a rule in. -/
def createRule (c : Client) (rule : Rule) : Work Envelope := do
  let text ← rule.body
  let (request, status, body) ← c.call .createRule rulesPath none
    [("Content-Type", "application/json")] text
  let payload ← Work.bodyJson body
  let envelope ← Work.ofExcept .api
    (envelope request status payload "Failed to create promotion rule")
  Work.log ⟨.info, logger,
    s!"Promotion rule {Text.quoted rule.name} submitted: {envelope.message}"⟩
  pure envelope

/-- Asks for the stored rules; an empty search finds all. -/
def listRules (c : Client) (search : Json) : Work StoredRules := do
  let query := if search.truthy then some (searchQuery search) else none
  let (request, status, body) ← c.call .listRules rulesPath query [] ""
  let payload ← Work.bodyJson body
  if Http.isError status then
    throw (.api (refusal request status payload "Failed to fetch promotion rules"))
  match StoredRules.ofJson (payload.getD .null) with
  | .valid rules => pure rules
  | .invalid issues => throw (.api (.unexpected status issues))

/-- Has a stored rule deleted. -/
def deleteRule (c : Client) (id : Json) : Work Envelope := do
  let (request, status, body) ← c.call .deleteRule (rulePath id) none [] ""
  if status = Http.noContent then pure ⟨true, "", .null⟩
  else
    let payload ← Work.bodyJson body
    Work.ofExcept .api (envelope request status payload "Failed to delete promotion rule")

/-- Has the rules applied to the current cart. -/
def evaluate (c : Client) : Work Json := do
  let (request, status, body) ← c.call .evaluate evaluatePath none [] ""
  let payload ← Work.bodyJson body
  if Http.isError status then
    throw (.api (refusal request status payload "Failed to evaluate cart"))
  match payload with
  | some (.obj fields) => pure (.obj fields)
  | _ => throw (.api (.unexpectedCart status))

end Client
end Promotion

import CallFlow.Agent.Responder
import CallFlow.Config.Basic
import CallFlow.Http.Status
import CallFlow.Http.Url
import CallFlow.Json.Print
import CallFlow.Text.Ends

/-!
# The directory behind a web service

The remote service keeps each record at an address of its own, which is read with `GET` and changed
with `PATCH`.  This module makes the requests and reads the responses; how they travel is up to a
transport.
-/

namespace CallFlow.Http

open Json

/-- The methods of requests. -/
inductive Method where
  | get
  | patch
  deriving DecidableEq

/-- A request. -/
structure Request where
  method : Method
  url : Url
  authorization : String
  /-- JSON text, if the request has a body. -/
  body : Option String

/-- A response. -/
structure Response where
  status : Nat
  body : String

/-- What becomes of a request. -/
inductive Delivery where
  | response (response : Response)
  /-- The connection ended before a response came. -/
  | unanswered
  /-- The time limit passed first. -/
  | timedOut

/-- A way for requests to travel, with states of type `σ`. -/
abbrev Transport (σ : Type) :=
  Request → (limitMs : Nat) → σ → Delivery × σ

/-- The remote service: its address, and the key for it. -/
structure Remote where
  baseUrl : String
  apiKey : String
  deriving DecidableEq

/-- What becomes of a request to a server that sends one message and ends the connection.  A message
that only announces a response leaves the request unanswered. -/
def Delivery.ofMessage (status : Nat) (body : String) : Delivery :=
  if isFinal status then .response ⟨status, if hasBody status then body else ""⟩ else .unanswered

/-- The name of a method. -/
def Method.name : Method → String
  | .get => "GET"
  | .patch => "PATCH"

/-- Whether a text may be the value of a header. -/
def isHeaderValue (text : String) : Bool :=
  text.toList.all fun c => c == '\t' || (0x20 ≤ c.toNat && c.toNat != 0x7f)

namespace Remote

/-- The service at an address; slashes at its end do not count. -/
def ofUrl (url apiKey : String) : Remote :=
  ⟨Text.dropTrailingSlashes url, apiKey⟩

/-- The service of a configuration. -/
def ofConfig (config : DeployConfig) (env : Environment) : Except Failure Remote := do
  return ofUrl config.remote.baseUrl (← config.resolvedApiKey env)

/-- The path of the record that a call is about. -/
def recordPath : Call → String
  | .fetchAgent agentId => "/agents/" ++ agentId
  | .fetchLlm llmId => "/llms/" ++ llmId
  | .write (.llmBound llmId) _ => "/llms/" ++ llmId
  | .write (.inline agentId) _ => "/agents/" ++ agentId

/-- The method of a call. -/
def method : Call → Method
  | .write _ _ => .patch
  | _ => .get

/-- The body of the request of a call. -/
def requestBody : Call → Option String
  | .write _ patch => some (compact patch.toJson)
  | _ => none

/-- A call as messages show it. -/
def title (call : Call) : String :=
  (method call).name ++ " " ++ recordPath call

/-- What hinders a request. -/
inductive Obstacle where
  /-- The address or the key makes no sense. -/
  | malformed
  /-- The address makes sense, and cannot be sent. -/
  | unsendable (url : Url)

/-- An obstacle as messages show it. -/
def Obstacle.text : Obstacle → String
  | .malformed => "builder error"
  | .unsendable url => "builder error for url (" ++ url.text ++ ")"

/-- The request of a call. -/
def request (remote : Remote) (call : Call) : Except Obstacle Request :=
  let authorization := "Bearer " ++ remote.apiKey
  match Url.ofText? (remote.baseUrl ++ recordPath call) with
  | none => .error .malformed
  | some url =>
    if !isHeaderValue authorization then .error .malformed
    else if !url.isSendable then .error (.unsendable url)
    else .ok ⟨method call, url, authorization, requestBody call⟩

/-- The failure of a call by its kind. -/
def failure : Call → String → Failure
  | .write _ _, detail => .remotePushFailed detail
  | _, detail => .remoteDiscovery detail

/-- Reads a record from a body. -/
def readBody {α : Type} (call : Call) (decoder : Decoder α) (body : String) : Reply α :=
  match Decoder.ofText decoder body with
  | .ok record => .answered record
  | .error _ =>
    .failed (failure call (title call ++ ": unusable body: error decoding response body"))

/-- The failure of a call whose response does not tell of success. -/
def refused (call : Call) (response : Response) : Failure :=
  failure call (title call ++ " returned " ++ statusText response.status ++
    match method call with
    | .get => ""
    | .patch => ": " ++ response.body)

/-- The reply that a response amounts to. -/
def readResponse (response : Response) (call : Call) : Reply call.Value :=
  if isSuccess response.status then
    match call with
    | .fetchAgent agentId => readBody (.fetchAgent agentId) AgentRecord.decoder response.body
    | .fetchLlm llmId => readBody (.fetchLlm llmId) LlmRecord.decoder response.body
    | .write _ _ => .answered ()
  else .failed (refused call response)

/-- The failure of a call for a reason that lies outside the service. -/
def failed (call : Call) (reason : String) : Failure :=
  failure call (title call ++ ": " ++ reason)

/-- The reply that a delivery amounts to. -/
def readDelivery (call : Call) (url : Url) : Delivery → Reply call.Value
  | .response response => readResponse response call
  | .unanswered => .failed (failed call ("error sending request for url (" ++ url.text ++ ")"))
  | .timedOut => .timedOut

/-- The directory behind the service, over a transport. -/
def respond {σ : Type} (remote : Remote) (transport : Transport σ) : Responder σ :=
  fun call limitMs state =>
    match remote.request call with
    | .ok request =>
      let (delivery, state) := transport request limitMs state
      (readDelivery call request.url delivery, state)
    | .error obstacle => (.failed (failed call obstacle.text), state)

end Remote

end CallFlow.Http

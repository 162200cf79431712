import CallFlow.Config.Environment
import CallFlow.Json.Record

/-!
# Configuration of deploys

A configuration names the remote service and the integration backend and sets the time limits.  It
is read from environment variables or from JSON text; both are checked by the same rules in the same
order.
-/

namespace CallFlow

open Json

/-- The remote service that holds agents. -/
structure RemoteConfig where
  baseUrl : String
  /-- The key itself, a reference to a variable, or nothing for the variable of the key. -/
  apiKey : String
  deriving DecidableEq

/-- The configuration of deploys. -/
structure DeployConfig where
  remote : RemoteConfig
  integrationBaseUrl : String
  discoveryTimeoutMs : UInt64
  pushTimeoutMs : UInt64
  webhookTimeoutMs : UInt64
  deriving DecidableEq

namespace DeployConfig

/-- The time limit of each read from the remote service, if none is set. -/
def defaultDiscoveryTimeoutMs : UInt64 := 5000

/-- The time limit of the write to the remote service, if none is set. -/
def defaultPushTimeoutMs : UInt64 := 15000

/-- The timeout of webhook tools, if none is set. -/
def defaultWebhookTimeoutMs : UInt64 := 10000

/-- The variable that holds the key of the remote service. -/
def apiKeyVariable : String := "VOXFLOW_REMOTE_API_KEY"

/-- A configuration with default time limits and without a key. -/
def new (remoteUrl integrationUrl : String) : DeployConfig :=
  ⟨⟨remoteUrl, ""⟩, integrationUrl, defaultDiscoveryTimeoutMs, defaultPushTimeoutMs,
    defaultWebhookTimeoutMs⟩

/-- The configuration that is used when none is given. -/
def default : DeployConfig :=
  new "http://localhost:8080" "http://localhost:3000"

/-- The configuration with a key. -/
def withApiKey (config : DeployConfig) (apiKey : String) : DeployConfig :=
  { config with remote := { config.remote with apiKey := apiKey } }

/-- The configuration with other time limits. -/
def withTimeouts (config : DeployConfig) (discoveryMs pushMs : UInt64) : DeployConfig :=
  { config with discoveryTimeoutMs := discoveryMs, pushTimeoutMs := pushMs }

/-- Checks an address: it starts with one of the two web schemes. -/
def checkUrl (url : String) : Except Failure Unit :=
  if url.isEmpty then .error (.config "URL must not be empty")
  else if "http://".toList.isPrefixOf url.toList || "https://".toList.isPrefixOf url.toList then
    .ok ()
  else .error (.config ("URL `" ++ url ++ "` must start with http:// or https://"))

/-- Checks a time limit. -/
def checkTimeout (name : String) (timeoutMs : UInt64) : Except Failure Unit :=
  if timeoutMs = 0 then .error (.config (name ++ " must be greater than zero")) else .ok ()

/-- Checks a key: it is neither blank nor a placeholder that was left in place. -/
def checkApiKey (key : String) : Except Failure Unit :=
  if Text.blank key then .error (.config "API key must not be empty")
  else if "your_".toList.isPrefixOf key.toList || ['$', '\x7b'].isPrefixOf key.toList then
    .error (.config "API key looks like a placeholder, provide a real key")
  else .ok ()

/-- Checks a configuration; the first check that fails is reported. -/
def validate (config : DeployConfig) : Except Failure Unit := do
  checkUrl config.remote.baseUrl
  checkUrl config.integrationBaseUrl
  checkTimeout "discovery_timeout_ms" config.discoveryTimeoutMs
  checkTimeout "push_timeout_ms" config.pushTimeoutMs
  checkTimeout "webhook_timeout_ms" config.webhookTimeoutMs

/-- A configuration that passes the checks. -/
def checked (config : DeployConfig) : Except Failure DeployConfig := do
  config.validate
  return config

/-- Reads a configuration from environment variables. -/
def ofEnvironment (env : Environment) : Except Failure DeployConfig := do
  let baseUrl ← env.require "VOXFLOW_REMOTE_BASE_URL"
  let apiKey := (env.nonBlank apiKeyVariable).getD ""
  let integrationBaseUrl ← env.require "VOXFLOW_INTEGRATION_BASE_URL"
  let discoveryTimeoutMs ← env.millis "VOXFLOW_DISCOVERY_TIMEOUT_MS" defaultDiscoveryTimeoutMs
  let pushTimeoutMs ← env.millis "VOXFLOW_PUSH_TIMEOUT_MS" defaultPushTimeoutMs
  let webhookTimeoutMs ← env.millis "VOXFLOW_WEBHOOK_TIMEOUT_MS" defaultWebhookTimeoutMs
  checked ⟨⟨baseUrl, apiKey⟩, integrationBaseUrl, discoveryTimeoutMs, pushTimeoutMs,
    webhookTimeoutMs⟩

/-- The key of the remote service, resolved and checked. -/
def resolvedApiKey (config : DeployConfig) (env : Environment) : Except Failure String := do
  let key ← env.resolveSecret config.remote.apiKey apiKeyVariable
  checkApiKey key
  return key

/-- Reads the remote service of a configuration. -/
def remoteDecoder : Decoder RemoteConfig :=
  Decoder.record "struct RemoteConfig"
    (.cons (.required "base_url" Decoder.string)
      (.cons (.withDefault "api_key" Decoder.string "") .nil))
    fun (baseUrl, apiKey, ()) => ⟨baseUrl, apiKey⟩

/-- Reads a configuration. -/
def decoder : Decoder DeployConfig :=
  Decoder.record "struct DeployConfig"
    (.cons (.required "remote" remoteDecoder)
      (.cons (.required "integration_base_url" Decoder.string)
      (.cons (.withDefault "discovery_timeout_ms" Decoder.word defaultDiscoveryTimeoutMs)
      (.cons (.withDefault "push_timeout_ms" Decoder.word defaultPushTimeoutMs)
      (.cons (.withDefault "webhook_timeout_ms" Decoder.word defaultWebhookTimeoutMs) .nil)))))
    fun (remote, integrationBaseUrl, discoveryTimeoutMs, pushTimeoutMs, webhookTimeoutMs, ()) =>
      ⟨remote, integrationBaseUrl, discoveryTimeoutMs, pushTimeoutMs, webhookTimeoutMs⟩

/-- The JSON of a configuration. -/
def toJson (config : DeployConfig) : Json :=
  .object [
    ("remote", .object [
      ("base_url", .string config.remote.baseUrl),
      ("api_key", .string config.remote.apiKey)]),
    ("integration_base_url", .string config.integrationBaseUrl),
    ("discovery_timeout_ms", Json.natural config.discoveryTimeoutMs),
    ("push_timeout_ms", Json.natural config.pushTimeoutMs),
    ("webhook_timeout_ms", Json.natural config.webhookTimeoutMs)]

/-- Why a configuration cannot be read from a text. -/
inductive LoadError where
  /-- The text does not describe a configuration. -/
  | unreadable (problem : Problem)
  /-- The configuration fails a check. -/
  | rejected (failure : Failure)
  deriving DecidableEq

/-- The failure that a load error is reported as. -/
def LoadError.failure : LoadError → Failure
  | .unreadable problem => .config ("invalid deploy config: " ++ problem.message)
  | .rejected failure => failure

/-- Reads a configuration from JSON text. -/
def ofText (text : String) : Except LoadError DeployConfig :=
  match Decoder.ofText decoder text with
  | .error problem => .error (.unreadable problem)
  | .ok config => config.checked.mapError .rejected

end DeployConfig

end CallFlow

import CallFlow.Config.Basic
import CallFlow.Deploy.Outcome
import CallFlow.Log
import CallFlow.Script.Compile
import CallFlow.Store
import CallFlow.Tool.Merge
import CallFlow.Tool.Resolve

/-!
# Deploys

A deploy loads and checks a flow, discovers the present tools of its agent, compiles and merges,
writes the change once, and then marks the flow as deployed.  This module holds the decisions
between the calls to the directory; nothing here depends on what the directory is.
-/

namespace CallFlow

/-- What deploys are made with: how tools are resolved, and the time limit of each read and of the
write. -/
structure Deployer where
  resolver : Resolver
  discoveryTimeoutMs : UInt64
  pushTimeoutMs : UInt64
  deriving DecidableEq

/-- A deploy of a flow that was loaded and checked. -/
structure Job where
  client : Client
  flow : Flow
  agentId : String

namespace Deployer

/-- The deployer for an integration backend, with default time limits. -/
def new (integrationUrl : String) : Deployer :=
  ⟨⟨.ofUrl integrationUrl, DeployConfig.defaultWebhookTimeoutMs⟩,
    DeployConfig.defaultDiscoveryTimeoutMs, DeployConfig.defaultPushTimeoutMs⟩

/-- The deployer of a configuration. -/
def ofConfig (config : DeployConfig) : Deployer :=
  ⟨⟨.ofUrl config.integrationBaseUrl, config.webhookTimeoutMs⟩, config.discoveryTimeoutMs,
    config.pushTimeoutMs⟩

/-- The deployer with other time limits. -/
def withTimeouts (deployer : Deployer) (discoveryMs pushMs : UInt64) : Deployer :=
  { deployer with discoveryTimeoutMs := discoveryMs, pushTimeoutMs := pushMs }

/-- The time limit of a call. -/
def limitMs (deployer : Deployer) : Call → Nat
  | .write _ _ => deployer.pushTimeoutMs.toNat
  | _ => deployer.discoveryTimeoutMs.toNat

/-- The script and the tools of nodes for a client. -/
def build (deployer : Deployer) (nodes : List Node) (client : Client) : Preview :=
  let script := Script.compile nodes
  ⟨script.text, deployer.resolver.resolve script.providers nodes client⟩

/-- Compiles and resolves a stored flow for a client. -/
def preview (deployer : Deployer) (store : Store) (client : Client) (flowId : String) :
    Except Failure Preview := do
  let flow ← store.load client.id flowId
  flow.validate
  return deployer.build flow.nodes client

/-- The change that a deploy writes: the script, and the present tools merged with those of the
flow. -/
def patch (deployer : Deployer) (job : Job) (discovery : Discovery) : Patch :=
  let built := deployer.build job.flow.nodes job.client
  ⟨built.script, Tool.merge discovery.existing built.tools⟩

end Deployer

/-- Loads and checks a flow for a deploy. -/
def Job.load (store : Store) (client : Client) (flowId : String) : Except Failure Job := do
  let flow ← store.load client.id flowId
  flow.validate
  match flow.linkedAgent with
  | some agentId => return ⟨client, flow, agentId⟩
  | none => throw (.agentNotLinked flowId)

/-- The entry about the links of a flow, if it has links. -/
def Flow.linkEntries (flow : Flow) : List Log.Entry :=
  if flow.branchLinkCount = 0 then [] else [.linksIgnored flow.id flow.branchLinkCount]

/-- The entry about a discovery, if it degraded. -/
def Discovery.entries (discovery : Discovery) : List Log.Entry :=
  match discovery.degraded with
  | some reason => [.degraded reason discovery.binding]
  | none => []

/-- Goes on with a value, or stops when the deploy is cancelled; with the entries so far. -/
def unlessCancelled {α : Type} (cancelled : Bool) (value : α) (entries : List Log.Entry) :
    Except Failure α × List Log.Entry :=
  if cancelled then (.error .cancelled, entries ++ [.cancelled]) else (.ok value, entries)

/-- What a deploy does in front of its first call. -/
def Job.accept (store : Store) (client : Client) (flowId : String) (cancelled : Bool) :
    Except Failure Job × List Log.Entry :=
  match Job.load store client flowId with
  | .ok job => unlessCancelled cancelled job job.flow.linkEntries
  | .error failure => (.error failure, [])

/-- What a deploy does between discovery and its write. -/
def Deployer.prepare (deployer : Deployer) (job : Job) (discovery : Discovery) (cancelled : Bool) :
    Except Failure Patch × List Log.Entry :=
  unlessCancelled cancelled (deployer.patch job discovery) discovery.entries

/-- The failure that a reply to the write amounts to.  Whatever goes wrong is a failed push. -/
def Deployer.pushFailure? (deployer : Deployer) : Reply Unit → Option Failure
  | .answered () => none
  | .failed (.remotePushFailed detail) => some (.remotePushFailed detail)
  | .failed failure => some (.remotePushFailed failure.message)
  | .timedOut =>
    some (.remotePushFailed
      ("push timed out after " ++ toString deployer.pushTimeoutMs.toNat ++ "ms"))

/-- How a deploy ended: its result, the store, and the last entries. -/
structure Conclusion where
  result : Except Failure Outcome
  store : Store
  entries : List Log.Entry

/-- What a deploy does after its write.  The flow is marked only when the write succeeded, and only
in the version that was loaded. -/
def Deployer.conclude (deployer : Deployer) (job : Job) (discovery : Discovery) (patch : Patch)
    (reply : Reply Unit) (store : Store) : Conclusion :=
  match deployer.pushFailure? reply with
  | some failure =>
    ⟨.error failure, store, [.pushFailed job.flow.id job.agentId failure]⟩
  | none =>
    match store.commit job.flow.id job.flow.version with
    | .error failure => ⟨.error failure, store, [.commitFailed job.flow.id failure]⟩
    | .ok (flow, store) =>
      ⟨.ok ⟨patch.script, patch.toolNames, discovery.binding, discovery.degraded, flow.version⟩,
        store, [.deployed job.flow.id flow.version patch.tools.length]⟩

end CallFlow

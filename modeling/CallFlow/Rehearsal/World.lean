import CallFlow.Agent.Directory
import CallFlow.Deploy.Run

/-!
# Rehearsals

A rehearsal plays deploys, edits and faults against a store and a directory in memory.  This module
holds the world of a rehearsal and the actions in it, each by itself.
-/

namespace CallFlow.Rehearsal

/-- The world of a rehearsal. -/
structure World where
  deployer : Deployer
  store : Store
  directory : Directory
  /-- The cancel signals that were raised. -/
  raised : List String
  /-- The calls to the directory that were begun, oldest first. -/
  calls : List Call
  log : List Log.Entry

/-- Changes to the faults and delays of the directory; what is not given stays as it is. -/
structure Faults where
  failAgentReads : Option Bool
  failLlmReads : Option Bool
  failPushes : Option Bool
  readDelayMs : Option Nat
  pushDelayMs : Option Nat

/-- An action in a rehearsal. -/
inductive Action where
  | putFlow (flow : Flow)
  | putAgent (record : AgentRecord)
  | putLlm (record : LlmRecord)
  | getFlow (flowId : String)
  | getAgent (agentId : String)
  | getLlm (llmId : String)
  | load (clientId flowId : String)
  | save (clientId flowId : String) (nodes : List Node) (edges : List Edge)
  | commit (flowId : String) (expected : UInt64)
  | pushes
  | setFaults (faults : Faults)
  | refuse (operation : Operation) (failure : Option Failure)
  | cancel (signal : String)
  | isCancelled (signal : Option String)
  | preview (client : Client) (flowId : String)
  | deploy (client : Client) (flowId : String) (signal : Option String)
  | discover (agentId : String) (limitMs : Nat)
  | push (target : Binding) (patch : Patch)

/-- What an action answers. -/
inductive Answer where
  | done
  | flag (isSet : Bool)
  | flow? (flow : Option Flow)
  | agent? (record : Option AgentRecord)
  | llm? (record : Option LlmRecord)
  | flow (result : Except Failure Flow)
  | pushes (pushes : List Push)
  | preview (result : Except Failure Preview)
  | outcome (result : Except Failure Outcome)
  | discovery (discovery : Discovery)
  | reply (reply : Reply Unit)

/-- The directory with other faults and delays. -/
def Faults.apply (faults : Faults) (directory : Directory) : Directory :=
  { directory with
    failAgentReads := faults.failAgentReads.getD directory.failAgentReads
    failLlmReads := faults.failLlmReads.getD directory.failLlmReads
    failPushes := faults.failPushes.getD directory.failPushes
    readDelayMs := faults.readDelayMs.getD directory.readDelayMs
    pushDelayMs := faults.pushDelayMs.getD directory.pushDelayMs }

namespace World

/-- The world in which nothing has happened yet. -/
def new (deployer : Deployer) (flows : List Flow) (agents : List AgentRecord)
    (llms : List LlmRecord) : World :=
  ⟨deployer, flows.foldl .insert .empty,
    llms.foldl .insertLlm (agents.foldl .insertAgent .empty), [], [], []⟩

/-- Whether a signal was raised; no signal never is. -/
def isRaised (world : World) : Option String → Bool
  | some signal => world.raised.contains signal
  | none => false

/-- The world with entries added to the log. -/
def note (world : World) (entries : List Log.Entry) : World :=
  { world with log := world.log ++ entries }

/-- The world after a change to a flow, or unchanged if the change failed. -/
def edited (world : World) : Except Failure (Flow × Store) → Answer × World
  | .ok (flow, store) => (.flow (.ok flow), { world with store := store })
  | .error failure => (.flow (.error failure), world)

/-- Deploys a flow with nothing else going on. -/
def deploy (world : World) (client : Client) (flowId : String) (signal : Option String) :
    Answer × World :=
  let run := world.deployer.run Directory.responder client flowId (world.isRaised signal)
    world.store world.directory
  (.outcome run.result,
    { world with
      store := run.store
      directory := run.remote
      calls := world.calls ++ run.calls
      log := world.log ++ run.entries })

/-- Discovers the tools of an agent with nothing else going on. -/
def discover (world : World) (agentId : String) (limitMs : Nat) : Answer × World :=
  let probed := Directory.responder.discover agentId limitMs world.directory
  (.discovery probed.discovery,
    { world with
      directory := probed.remote
      calls := world.calls ++ probed.calls
      log := world.log ++ probed.discovery.entries })

/-- Writes a change, without a time limit. -/
def push (world : World) (target : Binding) (patch : Patch) : Answer × World :=
  let call := Call.write target patch
  let (reply, directory) := world.directory.respond call none
  (.reply reply, { world with directory := directory, calls := world.calls ++ [call] })

/-- Performs an action with nothing else going on. -/
def perform (world : World) : Action → Answer × World
  | .putFlow flow => (.done, { world with store := world.store.insert flow })
  | .putAgent record => (.done, { world with directory := world.directory.insertAgent record })
  | .putLlm record => (.done, { world with directory := world.directory.insertLlm record })
  | .getFlow flowId => (.flow? (world.store.get? flowId), world)
  | .getAgent agentId => (.agent? (world.directory.agent? agentId), world)
  | .getLlm llmId => (.llm? (world.directory.llm? llmId), world)
  | .load clientId flowId => (.flow (world.store.load clientId flowId), world)
  | .save clientId flowId nodes edges => world.edited (world.store.save clientId flowId nodes edges)
  | .commit flowId expected => world.edited (world.store.commit flowId expected)
  | .pushes => (.pushes world.directory.pushes, world)
  | .setFaults faults => (.done, { world with directory := faults.apply world.directory })
  | .refuse operation failure =>
    (.done, { world with directory := world.directory.setRefusal operation failure })
  | .cancel signal => (.flag true, { world with raised := signal :: world.raised })
  | .isCancelled signal => (.flag (world.isRaised signal), world)
  | .preview client flowId => (.preview (world.deployer.preview world.store client flowId), world)
  | .deploy client flowId signal => world.deploy client flowId signal
  | .discover agentId limitMs => world.discover agentId limitMs
  | .push target patch => world.push target patch

end World

end CallFlow.Rehearsal

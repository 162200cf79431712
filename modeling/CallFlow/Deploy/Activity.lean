import CallFlow.Deploy.Basic

/-!
# A deploy among others

A deploy that shares the store and the directory with others waits for a reply to one call at a
time, and other things may happen meanwhile.  An activity is a deploy between two of its steps; each
step takes the reply, the cancel signal and the store as they are when the reply comes.
-/

namespace CallFlow

/-- A deploy between two of its steps. -/
inductive Activity where
  /-- It waits for the record of its agent. -/
  | probing (job : Job)
  /-- It waits for the record of the language model. -/
  | reading (job : Job) (llmId : String)
  /-- It waits for the reply to its write. -/
  | pushing (job : Job) (discovery : Discovery) (patch : Patch)
  | finished (result : Except Failure Outcome)

namespace Activity

/-- Starts a deploy. -/
def start (store : Store) (client : Client) (flowId : String) (cancelled : Bool) :
    Activity × List Log.Entry :=
  match Job.accept store client flowId cancelled with
  | (.ok job, entries) => (.probing job, entries)
  | (.error failure, entries) => (.finished (.error failure), entries)

/-- Goes on with a discovery. -/
def discovered (deployer : Deployer) (job : Job) (discovery : Discovery) (cancelled : Bool) :
    Activity × List Log.Entry :=
  match deployer.prepare job discovery cancelled with
  | (.ok patch, entries) => (.pushing job discovery patch, entries)
  | (.error failure, entries) => (.finished (.error failure), entries)

/-- Goes on with the reply to the read of the agent. -/
def afterAgent (deployer : Deployer) (job : Job) (reply : Reply AgentRecord) (cancelled : Bool) :
    Activity × List Log.Entry :=
  match Discovery.afterAgent job.agentId reply with
  | .settled discovery => discovered deployer job discovery cancelled
  | .refersTo llmId => (.reading job llmId, [])

/-- Goes on with the reply to the read of the language model. -/
def afterLlm (deployer : Deployer) (job : Job) (llmId : String) (reply : Reply LlmRecord)
    (cancelled : Bool) : Activity × List Log.Entry :=
  discovered deployer job (Discovery.afterLlm llmId reply) cancelled

end Activity

end CallFlow

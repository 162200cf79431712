import CallFlow.Agent.Call
import CallFlow.Text.Blank

/-!
# Discovering the tools of an agent

Before a write the present tools are read from the record that holds them.  A read that fails does
not stop a deploy: discovery degrades to an empty tool list and tells why.  An agent without a
usable binding is written to directly, and a language model stays the target although it cannot be
read.
-/

namespace CallFlow

/-- Why discovery goes on without the present tools. -/
inductive DegradeReason where
  | agentProbeFailed (detail : String)
  | agentProbeTimedOut
  | noEngineBinding
  | llmReadFailed (detail : String)
  | llmReadTimedOut
  deriving DecidableEq

/-- The text of a reason. -/
def DegradeReason.text : DegradeReason → String
  | .agentProbeFailed detail => "agent probe failed: " ++ detail
  | .agentProbeTimedOut => "agent probe timed out"
  | .noEngineBinding => "agent has no engine binding"
  | .llmReadFailed detail => "llm read failed: " ++ detail
  | .llmReadTimedOut => "llm read timed out"

/-- What is known of an agent before the write. -/
structure Discovery where
  binding : Binding
  existing : List Tool
  degraded : Option DegradeReason

/-- What follows from the answer to the first read. -/
inductive Probe where
  /-- Nothing more is read. -/
  | settled (discovery : Discovery)
  /-- The language model that the agent refers to is read. -/
  | refersTo (llmId : String)

namespace Discovery

/-- The tools were read. -/
def found (binding : Binding) (tools : List Tool) : Discovery :=
  ⟨binding, tools, none⟩

/-- The tools could not be read. -/
def degrade (binding : Binding) (reason : DegradeReason) : Discovery :=
  ⟨binding, [], some reason⟩

/-- What follows from the engine of an agent.  The id of a language model counts if it is not blank,
and is kept as it is. -/
def ofEngine (agentId : String) : Option Engine → Probe
  | some (.inline tools _) => .settled (found (.inline agentId) tools)
  | some (.llmRef llmId) =>
    if Text.blank llmId then .settled (degrade (.inline agentId) .noEngineBinding)
    else .refersTo llmId
  | none => .settled (degrade (.inline agentId) .noEngineBinding)

/-- What follows from the reply to the read of an agent. -/
def afterAgent (agentId : String) : Reply AgentRecord → Probe
  | .answered record => ofEngine agentId record.engine
  | .failed failure => .settled (degrade (.inline agentId) (.agentProbeFailed failure.message))
  | .timedOut => .settled (degrade (.inline agentId) .agentProbeTimedOut)

/-- What follows from the reply to the read of a language model. -/
def afterLlm (llmId : String) : Reply LlmRecord → Discovery
  | .answered record => found (.llmBound llmId) record.tools
  | .failed failure => degrade (.llmBound llmId) (.llmReadFailed failure.message)
  | .timedOut => degrade (.llmBound llmId) .llmReadTimedOut

end Discovery

end CallFlow

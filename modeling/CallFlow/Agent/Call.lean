import CallFlow.Agent.Record
import CallFlow.Failure
import CallFlow.Text.Quoted

/-!
# Calls to the directory of agents

A deploy reads the record of an agent, may read the record of a language model, and writes one
change of configuration.  A call is answered, fails, or is given up when its time limit has passed.
-/

namespace CallFlow

/-- The record that holds the tools of an agent. -/
inductive Binding where
  | llmBound (llmId : String)
  | inline (agentId : String)
  deriving DecidableEq

/-- A call to the directory. -/
inductive Call where
  | fetchAgent (agentId : String)
  | fetchLlm (llmId : String)
  | write (target : Binding) (patch : Patch)

/-- The kinds of calls. -/
inductive Operation where
  | fetchAgent
  | fetchLlm
  | updateLlm
  | updateAgent
  deriving DecidableEq

/-- How a call ends for the one who made it. -/
inductive Reply (α : Type) where
  | answered (value : α)
  | failed (failure : Failure)
  /-- The time limit passed first. -/
  | timedOut

/-- The reply of a call that was not given up. -/
def Reply.ofExcept {α : Type} : Except Failure α → Reply α
  | .ok value => .answered value
  | .error failure => .failed failure

namespace Binding

/-- The JSON of a binding. -/
def toJson : Binding → Json
  | .llmBound llmId => .object [("shape", .string "llm_bound"), ("llm_id", .string llmId)]
  | .inline agentId => .object [("shape", .string "inline"), ("agent_id", .string agentId)]

/-- A binding as log lines show it. -/
def description : Binding → String
  | .llmBound llmId => "LlmBound \x7b llm_id: " ++ Text.quoted llmId ++ " \x7d"
  | .inline agentId => "Inline \x7b agent_id: " ++ Text.quoted agentId ++ " \x7d"

end Binding

namespace Call

/-- What a call answers with. -/
@[reducible]
def Value : Call → Type
  | .fetchAgent _ => AgentRecord
  | .fetchLlm _ => LlmRecord
  | .write _ _ => Unit

/-- The kind of a call. -/
def operation : Call → Operation
  | .fetchAgent _ => .fetchAgent
  | .fetchLlm _ => .fetchLlm
  | .write (.llmBound _) _ => .updateLlm
  | .write (.inline _) _ => .updateAgent

/-- Whether a call changes the directory. -/
def isWrite : Call → Bool
  | .write _ _ => true
  | _ => false

/-- The id of the record that a call is about. -/
def recordId : Call → String
  | .fetchAgent agentId => agentId
  | .fetchLlm llmId => llmId
  | .write (.llmBound llmId) _ => llmId
  | .write (.inline agentId) _ => agentId

end Call

/-- The name of an operation. -/
def Operation.name : Operation → String
  | .fetchAgent => "fetch_agent"
  | .fetchLlm => "fetch_llm"
  | .updateLlm => "update_llm"
  | .updateAgent => "update_agent"

/-- A call in one line. -/
def Call.description (call : Call) : String :=
  call.operation.name ++ " " ++ call.recordId

end CallFlow

import CallFlow.Agent.Responder

/-!
# What a discovery learns from the replies

A discovery finds the tools of a record that was answered with, or it degrades and finds none.  The
language model that an agent refers to is the binding even if its read fails; without such a
reference the binding is the agent.
-/

namespace CallFlow

/-- The reply is a record that refers to a language model by an id that is not blank. -/
def Reply.RefersTo (reply : Reply AgentRecord) (llmId : String) : Prop :=
  ∃ record, reply = .answered record ∧ record.engine = some (.llmRef llmId) ∧
    Text.blank llmId = false

/-- The tools that an agent carries itself, as far as the reply tells. -/
def Reply.agentTools : Reply AgentRecord → List Tool
  | .answered ⟨_, some (.inline tools _), _⟩ => tools
  | _ => []

/-- The tools of a language model, as far as the reply tells. -/
def Reply.llmTools : Reply LlmRecord → List Tool
  | .answered record => record.tools
  | _ => []

namespace Discovery

theorem afterAgent_eq_refersTo_iff {agentId llmId : String} {reply : Reply AgentRecord} :
    afterAgent agentId reply = .refersTo llmId ↔ reply.RefersTo llmId := by
  constructor
  · intro h
    cases reply with
    | answered record =>
      cases hengine : record.engine with
      | none => simp [afterAgent, ofEngine, hengine] at h
      | some engine =>
        cases engine with
        | inline tools script => simp [afterAgent, ofEngine, hengine] at h
        | llmRef other =>
          cases hblank : Text.blank other with
          | true => simp [afterAgent, ofEngine, hengine, hblank] at h
          | false =>
            obtain rfl : other = llmId := by simpa [afterAgent, ofEngine, hengine, hblank] using h
            exact ⟨record, rfl, hengine, hblank⟩
    | failed failure => cases h
    | timedOut => cases h
  · rintro ⟨record, rfl, hengine, hblank⟩
    simp [afterAgent, ofEngine, hengine, hblank]

/-- A discovery that reads nothing but the agent finds the tools that the agent carries, or it
degrades. -/
theorem afterAgent_settled_cases {agentId : String} {reply : Reply AgentRecord}
    {discovery : Discovery} (h : afterAgent agentId reply = .settled discovery) :
    (∃ record tools script, reply = .answered record ∧
      record.engine = some (.inline tools script) ∧
      discovery = found (.inline agentId) tools) ∨
    (reply.agentTools = [] ∧ ∃ reason, discovery = degrade (.inline agentId) reason) := by
  cases reply with
  | answered record =>
    obtain ⟨id, engine, extra⟩ := record
    cases engine with
    | none =>
      cases h
      exact .inr ⟨rfl, _, rfl⟩
    | some engine =>
      cases engine with
      | inline tools script =>
        cases h
        exact .inl ⟨_, tools, script, rfl, rfl, rfl⟩
      | llmRef llmId =>
        simp only [afterAgent, ofEngine] at h
        split at h
        · cases h
          exact .inr ⟨rfl, _, rfl⟩
        · cases h
  | failed failure =>
    cases h
    exact .inr ⟨rfl, _, rfl⟩
  | timedOut =>
    cases h
    exact .inr ⟨rfl, _, rfl⟩

/-- Without a reference to a language model the binding is the agent. -/
theorem of_afterAgent_settled {agentId : String} {reply : Reply AgentRecord}
    {discovery : Discovery} (h : afterAgent agentId reply = .settled discovery) :
    discovery.binding = .inline agentId ∧ discovery.existing = reply.agentTools := by
  rcases afterAgent_settled_cases h with
    ⟨⟨id, engine, extra⟩, tools, script, rfl, rfl, rfl⟩ | ⟨hnone, reason, rfl⟩
  · exact ⟨rfl, rfl⟩
  · exact ⟨rfl, hnone.symm⟩

/-- A discovery that reads a language model finds its tools, or it degrades. -/
theorem afterLlm_cases (llmId : String) (reply : Reply LlmRecord) :
    (∃ record, reply = .answered record ∧
      afterLlm llmId reply = found (.llmBound llmId) record.tools) ∨
    ∃ reason, afterLlm llmId reply = degrade (.llmBound llmId) reason := by
  cases reply with
  | answered record => exact .inl ⟨record, rfl, rfl⟩
  | failed failure => exact .inr ⟨_, rfl⟩
  | timedOut => exact .inr ⟨_, rfl⟩

/-- The language model stays the target, however its read ended. -/
theorem afterLlm_eq (llmId : String) (reply : Reply LlmRecord) :
    (afterLlm llmId reply).binding = .llmBound llmId ∧
      (afterLlm llmId reply).existing = reply.llmTools := by
  cases reply <;> exact ⟨rfl, rfl⟩

end Discovery

/-! ## Discoveries by themselves -/

namespace Responder

variable {σ : Type} {respond : Responder σ} {agentId : String} {limitMs : Nat} {remote : σ}

/-- The first read settles the discovery. -/
theorem discover_of_settled {discovery : Discovery}
    (h : Discovery.afterAgent agentId (respond (.fetchAgent agentId) limitMs remote).1 =
      .settled discovery) :
    respond.discover agentId limitMs remote =
      ⟨discovery, (respond (.fetchAgent agentId) limitMs remote).2, [.fetchAgent agentId]⟩ := by
  simp [discover, h]

/-- The first read tells which language model to read. -/
theorem discover_of_refersTo {llmId : String}
    (h : Discovery.afterAgent agentId (respond (.fetchAgent agentId) limitMs remote).1 =
      .refersTo llmId) :
    respond.discover agentId limitMs remote =
      ⟨Discovery.afterLlm llmId
          (respond (.fetchLlm llmId) limitMs (respond (.fetchAgent agentId) limitMs remote).2).1,
        (respond (.fetchLlm llmId) limitMs (respond (.fetchAgent agentId) limitMs remote).2).2,
        [.fetchAgent agentId, .fetchLlm llmId]⟩ := by
  simp [discover, h]

end Responder

end CallFlow

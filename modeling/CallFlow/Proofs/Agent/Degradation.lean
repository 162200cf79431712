import Mathlib.Data.List.Basic
import CallFlow.Proofs.Agent.Discovery

/-!
# When a discovery degrades

A discovery makes one or two reads, and each of them is answered, fails, or is given up.  The record
that owns the tools of an agent is the agent itself or the language model that it refers to.  If the
read of this record is answered, the discovery finds just its tools; in every other case it finds
none and tells which read ended how.  This holds whatever the directory does: its replies are
arbitrary, and the second one may depend on the first read.
-/

namespace CallFlow

variable {σ : Type}

/-! ## What a responder is asked -/

/-- A responder that notes every call and its time limit. -/
def Responder.noting (respond : Responder σ) : Responder (σ × List (Call × Nat)) :=
  fun call limitMs state =>
    let ended := respond call limitMs state.1
    (ended.1, ended.2, state.2 ++ [(call, limitMs)])

/-- How the reads of a discovery end: the reply to the read of the agent, and the reply that the
read of a language model gets behind it. -/
structure Reads where
  agent : Reply AgentRecord
  llm : String → Reply LlmRecord

/-- How the reads of a discovery end with a responder. -/
def Responder.reads (respond : Responder σ) (agentId : String) (limitMs : Nat) (remote : σ) :
    Reads where
  agent := (respond (.fetchAgent agentId) limitMs remote).1
  llm llmId :=
    (respond (.fetchLlm llmId) limitMs (respond (.fetchAgent agentId) limitMs remote).2).1

namespace Reads

/-- The read of the record that owns the tools of the agent is answered, with these tools. -/
inductive Owned (reads : Reads) : List Tool → Prop
  | agent {record : AgentRecord} {tools : List Tool} {script : Option String}
      (hreply : reads.agent = .answered record)
      (hengine : record.engine = some (.inline tools script)) : Owned reads tools
  | llm {llmId : String} {record : LlmRecord} (hrefers : reads.agent.RefersTo llmId)
      (hreply : reads.llm llmId = .answered record) : Owned reads record.tools

/-- The reads end in a way that gives a discovery a reason to degrade. -/
inductive Degrades (reads : Reads) : DegradeReason → Prop
  | agentFailed {failure : Failure} (hreply : reads.agent = .failed failure) :
      Degrades reads (.agentProbeFailed failure.message)
  | agentTimedOut (hreply : reads.agent = .timedOut) : Degrades reads .agentProbeTimedOut
  | unbound {record : AgentRecord} (hreply : reads.agent = .answered record)
      (hengine : record.engine = none) : Degrades reads .noEngineBinding
  | blank {record : AgentRecord} {llmId : String} (hreply : reads.agent = .answered record)
      (hengine : record.engine = some (.llmRef llmId)) (hblank : Text.blank llmId = true) :
      Degrades reads .noEngineBinding
  | llmFailed {llmId : String} {failure : Failure} (hrefers : reads.agent.RefersTo llmId)
      (hreply : reads.llm llmId = .failed failure) :
      Degrades reads (.llmReadFailed failure.message)
  | llmTimedOut {llmId : String} (hrefers : reads.agent.RefersTo llmId)
      (hreply : reads.llm llmId = .timedOut) : Degrades reads .llmReadTimedOut

/-- However the reads end, they give the tools of the agent or a reason to degrade. -/
theorem owned_or_degrades (reads : Reads) :
    (∃ tools, reads.Owned tools) ∨ ∃ reason, reads.Degrades reason := by
  cases hagent : reads.agent with
  | failed failure => exact .inr ⟨_, .agentFailed hagent⟩
  | timedOut => exact .inr ⟨_, .agentTimedOut hagent⟩
  | answered record =>
    cases hengine : record.engine with
    | none => exact .inr ⟨_, .unbound hagent hengine⟩
    | some engine =>
      cases engine with
      | inline tools script => exact .inl ⟨tools, .agent hagent hengine⟩
      | llmRef llmId =>
        cases hblank : Text.blank llmId with
        | true => exact .inr ⟨_, .blank hagent hengine hblank⟩
        | false =>
          have hrefers : reads.agent.RefersTo llmId := ⟨record, hagent, hengine, hblank⟩
          cases hllm : reads.llm llmId with
          | answered found => exact .inl ⟨_, .llm hrefers hllm⟩
          | failed failure => exact .inr ⟨_, .llmFailed hrefers hllm⟩
          | timedOut => exact .inr ⟨_, .llmTimedOut hrefers hllm⟩

/-- What a discovery for an agent makes of its reads. -/
def discovery (reads : Reads) (agentId : String) : Discovery :=
  match Discovery.afterAgent agentId reads.agent with
  | .settled discovery => discovery
  | .refersTo llmId => Discovery.afterLlm llmId (reads.llm llmId)

section

variable {reads : Reads} {llmId : String}

theorem discovery_of_refersTo (h : reads.agent.RefersTo llmId) (agentId : String) :
    reads.discovery agentId = Discovery.afterLlm llmId (reads.llm llmId) := by
  rw [discovery, Discovery.afterAgent_eq_refersTo_iff.mpr h]

/-- Without a reference to a language model the discovery is settled by the first read, and the
binding is the agent that was asked for. -/
theorem exists_settled (h : ∀ llmId, ¬ reads.agent.RefersTo llmId) (agentId : String) :
    ∃ discovery, Discovery.afterAgent agentId reads.agent = .settled discovery ∧
      discovery.binding = .inline agentId := by
  cases hprobe : Discovery.afterAgent agentId reads.agent with
  | settled discovery => exact ⟨discovery, rfl, (Discovery.of_afterAgent_settled hprobe).1⟩
  | refersTo llmId => exact absurd (Discovery.afterAgent_eq_refersTo_iff.mp hprobe) (h llmId)

theorem binding_of_refersTo (h : reads.agent.RefersTo llmId) (agentId : String) :
    (reads.discovery agentId).binding = .llmBound llmId := by
  rw [discovery_of_refersTo h]
  exact (Discovery.afterLlm_eq llmId _).1

theorem binding_of_not_refersTo (h : ∀ llmId, ¬ reads.agent.RefersTo llmId) (agentId : String) :
    (reads.discovery agentId).binding = .inline agentId := by
  obtain ⟨settled, hprobe, hbinding⟩ := exists_settled h agentId
  rw [discovery, hprobe]
  exact hbinding

/-- The tools of the record that owns them are found, all of them in their order. -/
theorem Owned.discovery_eq {tools : List Tool} (h : reads.Owned tools) (agentId : String) :
    (reads.discovery agentId).degraded = none ∧ (reads.discovery agentId).existing = tools := by
  cases h with
  | agent hreply hengine =>
    rw [discovery, hreply, Discovery.afterAgent, hengine]
    exact ⟨rfl, rfl⟩
  | llm hrefers hreply =>
    rw [discovery_of_refersTo hrefers, hreply]
    exact ⟨rfl, rfl⟩

/-- A reason to degrade is told, and no tools are found. -/
theorem Degrades.discovery_eq {reason : DegradeReason} (h : reads.Degrades reason)
    (agentId : String) :
    (reads.discovery agentId).degraded = some reason ∧
      (reads.discovery agentId).existing = [] := by
  cases h with
  | agentFailed hreply =>
    rw [discovery, hreply]
    exact ⟨rfl, rfl⟩
  | agentTimedOut hreply =>
    rw [discovery, hreply]
    exact ⟨rfl, rfl⟩
  | unbound hreply hengine =>
    rw [discovery, hreply, Discovery.afterAgent, hengine]
    exact ⟨rfl, rfl⟩
  | blank hreply hengine hblank =>
    rw [discovery, hreply, Discovery.afterAgent, hengine, Discovery.ofEngine, if_pos hblank]
    exact ⟨rfl, rfl⟩
  | llmFailed hrefers hreply =>
    rw [discovery_of_refersTo hrefers, hreply]
    exact ⟨rfl, rfl⟩
  | llmTimedOut hrefers hreply =>
    rw [discovery_of_refersTo hrefers, hreply]
    exact ⟨rfl, rfl⟩

/-- A discovery degrades unless the tools of the agent were read. -/
theorem degraded_eq_none_iff (reads : Reads) (agentId : String) :
    (reads.discovery agentId).degraded = none ↔ ∃ tools, reads.Owned tools := by
  constructor
  · intro hfound
    rcases reads.owned_or_degrades with howned | ⟨reason, hdegrades⟩
    · exact howned
    · rw [(hdegrades.discovery_eq agentId).1] at hfound
      cases hfound
  · rintro ⟨tools, howned⟩
    exact (howned.discovery_eq agentId).1

/-- A discovery tells the reason that its reads give, and no other. -/
theorem degraded_eq_some_iff (reads : Reads) (agentId : String) (reason : DegradeReason) :
    (reads.discovery agentId).degraded = some reason ↔ reads.Degrades reason := by
  constructor
  · intro htold
    rcases reads.owned_or_degrades with ⟨tools, howned⟩ | ⟨given, hdegrades⟩
    · rw [(howned.discovery_eq agentId).1] at htold
      cases htold
    · rw [(hdegrades.discovery_eq agentId).1, Option.some.injEq] at htold
      exact htold ▸ hdegrades
  · intro hdegrades
    exact (hdegrades.discovery_eq agentId).1

theorem existing_of_degraded (reads : Reads) (agentId : String)
    (h : (reads.discovery agentId).degraded ≠ none) : (reads.discovery agentId).existing = [] := by
  obtain ⟨reason, hreason⟩ := Option.ne_none_iff_exists'.mp h
  exact (((reads.degraded_eq_some_iff agentId reason).mp hreason).discovery_eq agentId).2

end

end Reads

/-! ## Discoveries by themselves -/

namespace Responder

section

variable {respond : Responder σ} {agentId : String} {limitMs : Nat} {remote : σ}

theorem discovery_discover :
    (respond.discover agentId limitMs remote).discovery =
      (respond.reads agentId limitMs remote).discovery agentId := by
  rw [Reads.discovery]
  cases hprobe : Discovery.afterAgent agentId
      (respond.reads agentId limitMs remote).agent with
  | settled discovery => rw [discover_of_settled hprobe]
  | refersTo llmId =>
    rw [discover_of_refersTo hprobe]
    rfl

/-- A language model is read if the agent refers to it. -/
theorem calls_of_refersTo {llmId : String}
    (h : (respond.reads agentId limitMs remote).agent.RefersTo llmId) :
    (respond.discover agentId limitMs remote).calls =
      [.fetchAgent agentId, .fetchLlm llmId] := by
  rw [discover_of_refersTo (Discovery.afterAgent_eq_refersTo_iff.mpr h)]

theorem calls_of_not_refersTo
    (h : ∀ llmId, ¬ (respond.reads agentId limitMs remote).agent.RefersTo llmId) :
    (respond.discover agentId limitMs remote).calls = [.fetchAgent agentId] := by
  obtain ⟨settled, hsettled, -⟩ := Reads.exists_settled h agentId
  rw [discover_of_settled hsettled]

end

/-- The calls of a discovery are those that the responder is asked, each within the limit. -/
theorem remote_discover_noting (respond : Responder σ) (agentId : String) (limitMs : Nat)
    (remote : σ) :
    (respond.noting.discover agentId limitMs (remote, [])).remote =
      ((respond.discover agentId limitMs remote).remote,
        (respond.discover agentId limitMs remote).calls.map fun call => (call, limitMs)) := by
  have hfirst : (respond.noting (.fetchAgent agentId) limitMs (remote, [])).1 =
      (respond (.fetchAgent agentId) limitMs remote).1 := rfl
  cases hprobe : Discovery.afterAgent agentId
      (respond (.fetchAgent agentId) limitMs remote).1 with
  | settled discovery =>
    rw [discover_of_settled hprobe, discover_of_settled (hfirst ▸ hprobe)]
    rfl
  | refersTo llmId =>
    rw [discover_of_refersTo hprobe, discover_of_refersTo (hfirst ▸ hprobe)]
    rfl

end Responder

/-- A discovery of the tools of an agent is sound: what it asks, where it finds the tools to be
kept, which tools it finds, and why it finds none, all follow from how the reads end. -/
structure Probed.Sound (probed : Probed σ) (respond : Responder σ) (agentId : String)
    (limitMs : Nat) (remote : σ) : Prop where
  readOnly : ∀ call ∈ probed.calls, call.isWrite = false
  /-- The calls are those that the responder is asked, each within the limit. -/
  asked : (respond.noting.discover agentId limitMs (remote, [])).remote =
    (probed.remote, probed.calls.map fun call => (call, limitMs))
  referring : ∀ llmId, (respond.reads agentId limitMs remote).agent.RefersTo llmId →
    probed.calls = [.fetchAgent agentId, .fetchLlm llmId]
  notReferring : (∀ llmId, ¬ (respond.reads agentId limitMs remote).agent.RefersTo llmId) →
    probed.calls = [.fetchAgent agentId] ∧ probed.discovery.binding = .inline agentId
  llmBound : ∀ llmId, probed.discovery.binding = .llmBound llmId ↔
    (respond.reads agentId limitMs remote).agent.RefersTo llmId
  found : probed.discovery.degraded = none ↔
    ∃ tools, (respond.reads agentId limitMs remote).Owned tools
  existing : ∀ tools, (respond.reads agentId limitMs remote).Owned tools →
    probed.discovery.existing = tools
  degraded : probed.discovery.degraded ≠ none → probed.discovery.existing = []
  reason : ∀ reason, probed.discovery.degraded = some reason ↔
    (respond.reads agentId limitMs remote).Degrades reason

/-- Whatever the directory does, discovery is sound. -/
theorem Responder.sound_discover (respond : Responder σ) (agentId : String) (limitMs : Nat)
    (remote : σ) :
    (respond.discover agentId limitMs remote).Sound respond agentId limitMs remote where
  readOnly := by
    intro call hcall
    by_cases hrefers : ∃ llmId, (respond.reads agentId limitMs remote).agent.RefersTo llmId
    · obtain ⟨llmId, hrefers⟩ := hrefers
      rw [calls_of_refersTo hrefers] at hcall
      rcases List.mem_pair.mp hcall with rfl | rfl
      · rfl
      · rfl
    · rw [calls_of_not_refersTo (not_exists.mp hrefers), List.mem_singleton] at hcall
      rw [hcall]
      rfl
  asked := respond.remote_discover_noting agentId limitMs remote
  referring := fun llmId hrefers => calls_of_refersTo hrefers
  notReferring := by
    intro hnone
    refine ⟨calls_of_not_refersTo hnone, ?_⟩
    rw [discovery_discover]
    exact Reads.binding_of_not_refersTo hnone agentId
  llmBound := by
    intro llmId
    rw [discovery_discover]
    constructor
    · intro hbinding
      by_cases hrefers : ∃ other, (respond.reads agentId limitMs remote).agent.RefersTo other
      · obtain ⟨other, hrefers⟩ := hrefers
        rw [Reads.binding_of_refersTo hrefers, Binding.llmBound.injEq] at hbinding
        exact hbinding ▸ hrefers
      · rw [Reads.binding_of_not_refersTo (not_exists.mp hrefers)] at hbinding
        cases hbinding
    · intro hrefers
      exact Reads.binding_of_refersTo hrefers agentId
  found := by
    rw [discovery_discover]
    exact Reads.degraded_eq_none_iff _ agentId
  existing := by
    intro tools howned
    rw [discovery_discover]
    exact (howned.discovery_eq agentId).2
  degraded := by
    rw [discovery_discover]
    exact Reads.existing_of_degraded _ agentId
  reason := by
    intro reason
    rw [discovery_discover]
    exact Reads.degraded_eq_some_iff _ agentId reason

end CallFlow

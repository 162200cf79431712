import CallFlow.Agent.Discovery

/-!
# Directories as responders

Whatever replies to calls, and may change by them, is a directory.  Discovery by itself, with
nothing else going on, asks a responder once or twice.
-/

namespace CallFlow

/-- A directory with states of type `σ`: it replies to a call within a time limit. -/
abbrev Responder (σ : Type) :=
  (call : Call) → (limitMs : Nat) → σ → Reply call.Value × σ

/-- A discovery by itself: what was found, the directory after it, and the calls. -/
structure Probed (σ : Type) where
  discovery : Discovery
  remote : σ
  calls : List Call

/-- Discovers the present tools of an agent, each read within a time limit. -/
def Responder.discover {σ : Type} (respond : Responder σ) (agentId : String) (limitMs : Nat)
    (remote : σ) : Probed σ :=
  let first := respond (.fetchAgent agentId) limitMs remote
  match Discovery.afterAgent agentId first.1 with
  | .settled discovery => ⟨discovery, first.2, [.fetchAgent agentId]⟩
  | .refersTo llmId =>
    let second := respond (.fetchLlm llmId) limitMs first.2
    ⟨Discovery.afterLlm llmId second.1, second.2, [.fetchAgent agentId, .fetchLlm llmId]⟩

end CallFlow

import CallFlow.Flow.Basic

/-!
# The store of flows

A client sees its own flows only: a flow of another client is not found, as if it were missing.
Marking a flow as deployed is conditional on the version that was loaded, so that of two deploys of
one version at most one succeeds.
-/

namespace CallFlow

/-- The stored flows, each under its id. -/
structure Store where
  get? : String → Option Flow
  id_of_get? : ∀ {flowId : String} {flow : Flow}, get? flowId = some flow → flow.id = flowId

namespace Store

/-- The store without flows. -/
def empty : Store :=
  ⟨fun _ => none, nofun⟩

/-- Puts a flow in, in the place of another with its id. -/
def insert (store : Store) (flow : Flow) : Store where
  get? id := if id = flow.id then some flow else store.get? id
  id_of_get? := by
    intro id other h
    split at h
    · cases h
      exact Eq.symm ‹id = flow.id›
    · exact store.id_of_get? h

/-- A flow that was put in is found under its id, and the others stay as they were. -/
@[simp]
theorem get?_insert (store : Store) (flow : Flow) (flowId : String) :
    (store.insert flow).get? flowId = if flowId = flow.id then some flow else store.get? flowId :=
  rfl

/-- The flow of a client under an id. -/
def owned? (store : Store) (clientId flowId : String) : Option Flow :=
  (store.get? flowId).filter fun flow => flow.clientId = clientId

/-- Loads a flow for a client. -/
def load (store : Store) (clientId flowId : String) : Except Failure Flow :=
  match store.owned? clientId flowId with
  | some flow => .ok flow
  | none => .error (.flowNotFound flowId)

/-- Replaces the nodes and edges of a flow for a client. -/
def save (store : Store) (clientId flowId : String) (nodes : List Node) (edges : List Edge) :
    Except Failure (Flow × Store) :=
  match store.owned? clientId flowId with
  | some flow =>
    let edited := flow.withDefinition nodes edges
    .ok (edited, store.insert edited)
  | none => .error (.flowNotFound flowId)

/-- Marks a flow as deployed, if its version is the expected one. -/
def commit (store : Store) (flowId : String) (expected : UInt64) :
    Except Failure (Flow × Store) :=
  match store.get? flowId with
  | some flow =>
    if flow.version = expected then
      .ok (flow.deployed, store.insert flow.deployed)
    else .error (.persistenceConflict flowId expected flow.version)
  | none => .error (.flowNotFound flowId)

end Store

end CallFlow

import CallFlow.Failure
import CallFlow.Flow.Node

/-!
# Conversation flows

A flow belongs to a client and holds its nodes in the order in which they are compiled.  Its version
and its activity are the bookkeeping of deploys; editing a flow leaves them alone.
-/

namespace CallFlow

/-- A link between two nodes that an author drew. -/
structure Edge where
  id : String
  source : String
  target : String
  label : Option String
  deriving DecidableEq

/-- A conversation flow. -/
structure Flow where
  id : String
  clientId : String
  name : String
  nodes : List Node
  edges : List Edge
  version : UInt64
  active : Bool
  agentId : Option String
  deriving DecidableEq

namespace Flow

/-- A flow without content that was never deployed. -/
def new (id clientId : String) : Flow :=
  ⟨id, clientId, "", [], [], 0, false, none⟩

/-- The flow with other nodes and edges. -/
def withDefinition (flow : Flow) (nodes : List Node) (edges : List Edge) : Flow :=
  { flow with nodes := nodes, edges := edges }

/-- The flow after a deploy: one version on, and active. -/
def deployed (flow : Flow) : Flow :=
  { flow with version := flow.version + 1, active := true }

/-- The agent that the flow is linked to. -/
def linkedAgent (flow : Flow) : Option String :=
  Text.nonBlank flow.agentId

/-- The number of links that the author wrote, at nodes and as edges. -/
def branchLinkCount (flow : Flow) : Nat :=
  flow.nodes.foldl (fun links node => links + node.branchLinks) flow.edges.length

/-- Checks node ids in turn, given the ids in front: each has a character that is not blank and
differs from all in front of it. -/
def checkIds (flowId : String) (seen : List String) : List String → Except Failure Unit
  | [] => .ok ()
  | id :: ids =>
    if Text.blank id then .error .blankNodeId
    else if id ∈ seen then .error (.duplicateNodeId id flowId)
    else checkIds flowId (id :: seen) ids

/-- Checks that the nodes of a flow have distinct ids that are not blank. -/
def validate (flow : Flow) : Except Failure Unit :=
  checkIds flow.id [] (flow.nodes.map Node.id)

end Flow

end CallFlow

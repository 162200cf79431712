import CallFlow.Json.Basic

/-!
# Failures

The ways in which loading, compiling or deploying a flow fails.  A caller is shown one text for
every failed deploy, and whether trying again may help; the message of a failure is for its
operator.
-/

namespace CallFlow

/-- A failure, by its cause. -/
inductive Failure where
  | flowNotFound (flowId : String)
  | agentNotLinked (flowId : String)
  | invalidFlow (detail : String)
  | remoteDiscovery (detail : String)
  | remotePushFailed (detail : String)
  /-- The stored flow has another version than the one that was loaded. -/
  | persistenceConflict (flowId : String) (expected found : UInt64)
  | cancelled
  | config (detail : String)
  | serialization (detail : String)
  | other (detail : String)
  deriving DecidableEq

namespace Failure

/-- A node id without a character that is not blank. -/
def blankNodeId : Failure :=
  .invalidFlow "node id must not be empty"

/-- A node id that an earlier node of the flow has. -/
def duplicateNodeId (nodeId flowId : String) : Failure :=
  .invalidFlow ("duplicate node id `" ++ nodeId ++ "` in flow `" ++ flowId ++ "`")

/-- The message of a failure. -/
def message : Failure → String
  | .flowNotFound flowId => "flow `" ++ flowId ++ "` not found"
  | .agentNotLinked flowId => "flow `" ++ flowId ++ "` has no linked agent"
  | .invalidFlow detail => "invalid flow: " ++ detail
  | .remoteDiscovery detail => "remote discovery failed: " ++ detail
  | .remotePushFailed detail => "remote push failed: " ++ detail
  | .persistenceConflict flowId expected found =>
    "flow `" ++ flowId ++ "` changed during deploy (expected version " ++ toString expected.toNat ++
      ", found " ++ toString found.toNat ++ ")"
  | .cancelled => "deploy cancelled before push"
  | .config detail => "configuration error: " ++ detail
  | .serialization detail => "serialization error: " ++ detail
  | .other detail => detail

/-- Whether trying again may help: the flow has changed, and may be loaded again. -/
def isRetryable : Failure → Bool
  | .persistenceConflict _ _ _ => true
  | _ => false

/-- What a caller is shown of a failed deploy. -/
def body (failure : Failure) : Json :=
  .object [
    ("success", .bool false),
    ("error", .string "deployment failed"),
    ("retryable", .bool failure.isRetryable)]

end Failure

end CallFlow

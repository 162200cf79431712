import CallFlow.Agent.Discovery

/-!
# Log entries

What a deploy tells its operator while it runs.  An entry is written in one line: its level, a fixed
message, and the values it is about.  A value that holds line breaks is written with them.
-/

namespace CallFlow.Log

/-- The levels of entries. -/
inductive Level where
  | info
  | warning
  | error
  deriving DecidableEq

/-- An entry of the log. -/
inductive Entry where
  /-- A flow has links, which are not followed. -/
  | linksIgnored (flowId : String) (count : Nat)
  /-- A deploy was cancelled before its write. -/
  | cancelled
  /-- A deploy goes on without the present tools. -/
  | degraded (reason : DegradeReason) (binding : Binding)
  /-- The write of a deploy failed. -/
  | pushFailed (flowId agentId : String) (failure : Failure)
  /-- The write of a deploy is done, and the flow could not be marked. -/
  | commitFailed (flowId : String) (failure : Failure)
  | deployed (flowId : String) (version : UInt64) (tools : Nat)

/-- The name of a level. -/
def Level.name : Level → String
  | .info => "INFO"
  | .warning => "WARN"
  | .error => "ERROR"

namespace Entry

/-- The level of an entry. -/
def level : Entry → Level
  | .linksIgnored _ _ => .info
  | .cancelled => .warning
  | .degraded _ _ => .warning
  | .pushFailed _ _ _ => .error
  | .commitFailed _ _ => .warning
  | .deployed _ _ _ => .info

/-- The message of an entry. -/
def message : Entry → String
  | .linksIgnored _ _ => "branch links are not followed, compiling nodes in list order"
  | .cancelled => Failure.cancelled.message
  | .degraded _ _ => "remote discovery degraded, continuing without existing tools"
  | .pushFailed _ _ _ => "deploy failed, nothing committed"
  | .commitFailed _ _ => "remote updated but local commit failed"
  | .deployed _ _ _ => "flow deployed"

/-- The values of an entry by name. -/
def values : Entry → List (String × String)
  | .linksIgnored flowId count =>
    [("flow_id", Text.quoted flowId), ("ignored_links", toString count)]
  | .cancelled => []
  | .degraded reason binding => [("reason", reason.text), ("shape", binding.description)]
  | .pushFailed flowId agentId failure =>
    [("flow_id", Text.quoted flowId), ("agent_id", agentId), ("stage", "pushing"),
      ("error", failure.message)]
  | .commitFailed flowId failure =>
    [("flow_id", Text.quoted flowId), ("error", failure.message)]
  | .deployed flowId version tools =>
    [("flow_id", Text.quoted flowId), ("version", toString version.toNat),
      ("tools", toString tools)]

/-- The line of an entry. -/
def line (entry : Entry) : String :=
  " ".intercalate (entry.level.name :: entry.message ::
    entry.values.map fun (name, value) => name ++ "=" ++ value)

end Entry

end CallFlow.Log

import CallFlow.Tool.Set

/-!
# Merging tools

The tools that a flow brings are merged into the tools that its agent has.  A tool of the agent
gives way to a tool of the flow with the same name; the others stay in front, in their order.
-/

namespace CallFlow.Tool

/-- Merges the tools of a flow into existing tools.  Of existing tools with one name the first is
kept; of flow tools with one name the last is kept, in the place of the first. -/
def merge (existing flow : List Tool) : List Tool :=
  let brought := ToolSet.empty.upsertAll flow
  let kept := ToolSet.ofList (existing.filter fun tool => !brought.contains tool.name)
  (kept.extend brought.tools).tools

end CallFlow.Tool

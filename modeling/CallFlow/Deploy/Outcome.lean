import CallFlow.Agent.Discovery
import CallFlow.Deploy.Stage

/-!
# Outcomes

What a client is told of a deploy that succeeded, and of a preview.
-/

namespace CallFlow

open Json

/-- A deploy that succeeded. -/
structure Outcome where
  script : String
  toolNames : List String
  binding : Binding
  degraded : Option DegradeReason
  version : UInt64

/-- A flow compiled and resolved, without a deploy. -/
structure Preview where
  script : String
  tools : List Tool

namespace Outcome

/-- The fields of the outcome that a client is told. -/
def members (outcome : Outcome) : Members :=
  [("success", .bool true), ("prompt_preview", .string outcome.script),
    ("tools_registered", .array (outcome.toolNames.map .string))]

/-- The JSON of an outcome. -/
def toJson (outcome : Outcome) : Json :=
  .object outcome.members

/-- The JSON of an outcome with its version, and with the reason if it degraded. -/
def summary (outcome : Outcome) : Json :=
  Json.object (outcome.members ++ ("version", Json.natural outcome.version) ::
    (outcome.degraded.map fun reason => ("degraded", Json.string reason.text)).toList)

/-- The stages of a deploy that succeeded. -/
def stages (_ : Outcome) : List Stage :=
  Stage.successful

end Outcome

/-- The JSON of a preview. -/
def Preview.toJson (preview : Preview) : Json :=
  .object [
    ("prompt_preview", .string preview.script),
    ("tools", .array (preview.tools.map Tool.toJson))]

end CallFlow

import CallFlow.Tool.Basic

/-!
# Agent records

A remote agent either refers to a language model that is kept as a record of its own, or carries its
tools and its script itself.  Unknown members of both records are kept and written back.
-/

namespace CallFlow

open Json

/-- How an agent is bound to a language model. -/
inductive Engine where
  /-- The model is a record of its own. -/
  | llmRef (llmId : String)
  /-- The agent carries tools and script itself. -/
  | inline (tools : List Tool) (script : Option String)

/-- The record of an agent. -/
structure AgentRecord where
  agentId : String
  engine : Option Engine
  extra : Members

/-- The record of a language model. -/
structure LlmRecord where
  llmId : String
  tools : List Tool
  script : Option String
  extra : Members

/-- A change of configuration: the script and the complete tool list. -/
structure Patch where
  script : String
  tools : List Tool

namespace Engine

/-- The two ways of being bound to a model. -/
inductive Kind where
  | llmRef
  | inline
  deriving DecidableEq

/-- Reads the members of an engine of a kind. -/
def content : Kind → Decoder Engine
  | .llmRef =>
    Decoder.record "struct variant EngineBinding::LlmRef"
      (.cons (.required "llm_id" Decoder.string) .nil)
      fun (llmId, ()) => .llmRef llmId
  | .inline =>
    Decoder.record "struct variant EngineBinding::Inline"
      (.cons (.withDefault "tools" (Decoder.list Tool.decoder) [])
        (.cons (.optional "instruction_script" Decoder.string) .nil))
      fun (tools, script, ()) => .inline tools script

/-- Reads an engine. -/
def decoder : Decoder Engine :=
  Decoder.tagged "internally tagged enum EngineBinding" "type"
    [("llm_ref", .llmRef), ("inline", .inline)] ["llm_ref", "inline"] content

/-- The JSON of an engine. -/
def toJson : Engine → Json
  | .llmRef llmId => .object [("type", .string "llm_ref"), ("llm_id", .string llmId)]
  | .inline tools script =>
    Json.ofFields [
      ("type", some (.string "inline")),
      ("tools", some (.array (tools.map Tool.toJson))),
      ("instruction_script", Json.ofText? script)]

end Engine

namespace AgentRecord

/-- An agent that refers to a language model. -/
def llmBound (agentId llmId : String) : AgentRecord :=
  ⟨agentId, some (.llmRef llmId), []⟩

/-- An agent that carries its tools. -/
def inline (agentId : String) (tools : List Tool) : AgentRecord :=
  ⟨agentId, some (.inline tools none), []⟩

/-- Reads the record of an agent. -/
def decoder : Decoder AgentRecord :=
  Decoder.openRecord "struct AgentRecord"
    (.cons (.required "agent_id" Decoder.string)
      (.cons (.optional "response_engine" Engine.decoder) .nil))
    fun (agentId, engine, ()) extra => ⟨agentId, engine, extra⟩

/-- The JSON of an agent: the named fields, then the extra members. -/
def toJson (record : AgentRecord) : Json :=
  .object ([
    ("agent_id", some (.string record.agentId)),
    ("response_engine", record.engine.map Engine.toJson)].filterMap
      (fun (key, value) => value.map (key, ·)) ++ record.extra)

end AgentRecord

namespace LlmRecord

/-- A language model with tools. -/
def new (llmId : String) (tools : List Tool) : LlmRecord :=
  ⟨llmId, tools, none, []⟩

/-- Reads the record of a language model. -/
def decoder : Decoder LlmRecord :=
  Decoder.openRecord "struct LlmConfig"
    (.cons (.required "llm_id" Decoder.string)
      (.cons (.withDefault "tools" (Decoder.list Tool.decoder) [])
      (.cons (.optional "instruction_script" Decoder.string) .nil)))
    fun (llmId, tools, script, ()) extra => ⟨llmId, tools, script, extra⟩

/-- The JSON of a language model: the named fields, then the extra members. -/
def toJson (record : LlmRecord) : Json :=
  .object ([
    ("llm_id", some (.string record.llmId)),
    ("tools", some (.array (record.tools.map Tool.toJson))),
    ("instruction_script", Json.ofText? record.script)].filterMap
      (fun (key, value) => value.map (key, ·)) ++ record.extra)

end LlmRecord

namespace Patch

/-- The names of the tools in order. -/
def toolNames (patch : Patch) : List String :=
  patch.tools.map Tool.name

/-- Reads a change. -/
def decoder : Decoder Patch :=
  Decoder.record "struct ConfigPatch"
    (.cons (.required "instruction_script" Decoder.string)
      (.cons (.required "tools" (Decoder.list Tool.decoder)) .nil))
    fun (script, tools, ()) => ⟨script, tools⟩

/-- The JSON of a change. -/
def toJson (patch : Patch) : Json :=
  .object [
    ("instruction_script", .string patch.script),
    ("tools", .array (patch.tools.map Tool.toJson))]

end Patch

/-- An agent after a change: it carries the tools and the script itself. -/
def AgentRecord.patched (record : AgentRecord) (patch : Patch) : AgentRecord :=
  { record with engine := some (.inline patch.tools (some patch.script)) }

/-- A language model after a change. -/
def LlmRecord.patched (record : LlmRecord) (patch : Patch) : LlmRecord :=
  { record with tools := patch.tools, script := some patch.script }

end CallFlow

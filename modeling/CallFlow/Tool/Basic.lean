import CallFlow.Json.Record

/-!
# Tools

A tool is something the agent may call.  Its name identifies it.  Fields that this library does not
know are kept as extra members and written back unchanged.
-/

namespace CallFlow

open Json

/-- The description of a tool. -/
structure Tool where
  kind : String
  name : String
  description : Option String
  parameters : Option Json
  timeoutMs : Option UInt64
  extra : Members

/-- The parameters of a tool: properties, and the names of those that a call must give, in order. -/
structure ParameterSchema where
  properties : Members
  required : List String

namespace ParameterSchema

/-- A schema without parameters. -/
def empty : ParameterSchema := ⟨[], []⟩

/-- The schema with one more property. -/
def property (schema : ParameterSchema) (name type description : String) : ParameterSchema :=
  { schema with
    properties := schema.properties.insert name
      (.object [("description", .string description), ("type", .string type)]) }

/-- The schema with one more property that a call must give. -/
def requiredProperty (schema : ParameterSchema) (name type description : String) :
    ParameterSchema :=
  let schema := schema.property name type description
  { schema with required := schema.required ++ [name] }

/-- The JSON of a schema. -/
def toJson (schema : ParameterSchema) : Json :=
  .object [
    ("properties", .object schema.properties),
    ("required", .array (schema.required.map .string)),
    ("type", .string "object")]

end ParameterSchema

namespace Tool

/-- A tool of which only kind and name are known. -/
def new (kind name : String) : Tool :=
  ⟨kind, name, none, none, none, []⟩

/-- The tool with a description. -/
def withDescription (tool : Tool) (description : String) : Tool :=
  { tool with description := some description }

/-- The tool with parameters. -/
def withParameters (tool : Tool) (schema : ParameterSchema) : Tool :=
  { tool with parameters := some schema.toJson }

/-- The tool with a timeout. -/
def withTimeoutMs (tool : Tool) (timeoutMs : UInt64) : Tool :=
  { tool with timeoutMs := some timeoutMs }

/-- The tool with an extra member. -/
def withField (tool : Tool) (key : String) (value : Json) : Tool :=
  { tool with extra := tool.extra.insert key value }

/-- The tool during and after whose execution the agent speaks. -/
def speaksWhileWorking (tool : Tool) (message : String) : Tool :=
  ((tool.withField "speak_during_execution" (.bool true)).withField
    "speak_after_execution" (.bool true)).withField "execution_message_description"
      (.string message)

/-- An extra member. -/
def field? (tool : Tool) (key : String) : Option Json :=
  tool.extra.get? key

/-- The text of an extra member. -/
def fieldText? (tool : Tool) (key : String) : Option String :=
  (tool.field? key).bind Json.asString?

/-- Reads a tool. -/
def decoder : Decoder Tool :=
  Decoder.openRecord "struct ToolDescriptor"
    (.cons (.required "type" Decoder.string)
      (.cons (.withDefault "name" Decoder.string "")
      (.cons (.optional "description" Decoder.string)
      (.cons (.optional "parameters" Decoder.any)
      (.cons (.optional "timeout_ms" Decoder.word) .nil)))))
    fun (kind, name, description, parameters, timeoutMs, ()) extra =>
      ⟨kind, name, description, parameters, timeoutMs, extra⟩

/-- The JSON of a tool: the named fields, then the extra members. -/
def toJson (tool : Tool) : Json :=
  .object ([
    ("type", some (.string tool.kind)),
    ("name", some (.string tool.name)),
    ("description", Json.ofText? tool.description),
    ("parameters", tool.parameters),
    ("timeout_ms", tool.timeoutMs.map Json.natural)].filterMap
      (fun (key, value) => value.map (key, ·)) ++ tool.extra)

end Tool

end CallFlow

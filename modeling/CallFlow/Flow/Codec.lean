import CallFlow.Flow.Basic
import CallFlow.Json.Print
import CallFlow.Json.Record

/-!
# The stored form of flows

A node is stored with its id, its type and a `data` object.  All kinds share the fields of `data`;
reading keeps those of the node's own kind, and writing writes those only.  An empty list of choices
is written as none, a webhook always with its method.
-/

namespace CallFlow

open Json

namespace NodeType

/-- The name of a kind of node. -/
def name : NodeType → String
  | .message => "message"
  | .question => "question"
  | .condition => "condition"
  | .transfer => "transfer"
  | .closing => "end"
  | .checkAvailability => "check_availability"
  | .bookAppointment => "book_appointment"
  | .crmLookup => "crm_lookup"
  | .webhook => "webhook"

/-- The kinds of node in order. -/
def all : List NodeType :=
  [.message, .question, .condition, .transfer, .closing, .checkAvailability, .bookAppointment,
    .crmLookup, .webhook]

/-- Reads a kind of node. -/
def decoder : Decoder NodeType :=
  Decoder.variant (all.map fun type => (type.name, type)) (all.map name)

end NodeType

namespace SchedulingProvider

/-- The name of a scheduling provider. -/
def name : SchedulingProvider → String
  | .calcom => "calcom"
  | .googleCalendar => "google_calendar"

/-- The names that are read as a scheduling provider. -/
def names : List (String × SchedulingProvider) :=
  [("cal", .calcom), ("cal_com", .calcom), ("calcom", .calcom), ("google", .googleCalendar),
    ("google_calendar", .googleCalendar)]

/-- Reads a scheduling provider. -/
def decoder : Decoder SchedulingProvider :=
  Decoder.variant names (names.map (·.1))

end SchedulingProvider

namespace WebhookMethod

/-- Reads a request method. -/
def decoder : Decoder WebhookMethod :=
  Decoder.variant [("POST", .post), ("GET", .get)] ["POST", "GET"]

end WebhookMethod

namespace Choice

/-- Reads an answer of a question. -/
def decoder : Decoder Choice :=
  Decoder.record "struct ChoiceOption"
    (.cons (.required "label" Decoder.string)
      (.cons (.optional "nextNodeId" Decoder.string) .nil))
    fun (label, next, ()) => ⟨label, next⟩

/-- The JSON of an answer of a question. -/
def toJson (choice : Choice) : Json :=
  Json.ofFields [
    ("label", some (.string choice.label)),
    ("nextNodeId", Json.ofText? choice.next)]

end Choice

/-- The fields of a node's `data`, shared by all kinds of node. -/
structure NodeData where
  text : Option String
  next : Option String
  choices : Option (List Choice)
  condition : Option String
  whenTrue : Option String
  whenFalse : Option String
  transferNumber : Option String
  provider : Option SchedulingProvider
  webhookUrl : Option String
  webhookMethod : Option WebhookMethod
  deriving DecidableEq

namespace NodeData

/-- No field at all. -/
def empty : NodeData :=
  ⟨none, none, none, none, none, none, none, none, none, none⟩

/-- Reads the fields of a node. -/
def decoder : Decoder NodeData :=
  Decoder.record "struct RawNodeData"
    (.cons (.optional "text" Decoder.string)
      (.cons (.optional "nextNodeId" Decoder.string)
      (.cons (.optional "options" (Decoder.list Choice.decoder))
      (.cons (.optional "condition" Decoder.string)
      (.cons (.optional "trueNodeId" Decoder.string)
      (.cons (.optional "falseNodeId" Decoder.string)
      (.cons (.optional "transferNumber" Decoder.string)
      (.cons (.optional "provider" SchedulingProvider.decoder)
      (.cons (.optional "webhookUrl" Decoder.string)
      (.cons (.optional "webhookMethod" WebhookMethod.decoder) .nil))))))))))
    fun (text, next, choices, condition, whenTrue, whenFalse, phone, provider, url, method, ()) =>
      ⟨text, next, choices, condition, whenTrue, whenFalse, phone, provider, url, method⟩

/-- The JSON of the fields of a node. -/
def toJson (data : NodeData) : Json :=
  Json.ofFields [
    ("text", Json.ofText? data.text),
    ("nextNodeId", Json.ofText? data.next),
    ("options", data.choices.map fun choices => .array (choices.map Choice.toJson)),
    ("condition", Json.ofText? data.condition),
    ("trueNodeId", Json.ofText? data.whenTrue),
    ("falseNodeId", Json.ofText? data.whenFalse),
    ("transferNumber", Json.ofText? data.transferNumber),
    ("provider", data.provider.map fun provider => .string provider.name),
    ("webhookUrl", Json.ofText? data.webhookUrl),
    ("webhookMethod", data.webhookMethod.map fun method => .string method.name)]

/-- The payload of a kind of node. -/
def kind (data : NodeData) : NodeType → NodeKind
  | .message => .message data.text
  | .question => .question data.text (data.choices.getD [])
  | .condition => .condition data.condition data.whenTrue data.whenFalse
  | .transfer => .transfer data.transferNumber data.text
  | .closing => .closing data.text
  | .checkAvailability => .checkAvailability data.provider data.text
  | .bookAppointment => .bookAppointment data.provider data.text
  | .crmLookup => .crmLookup data.text
  | .webhook => .webhook data.webhookUrl (data.webhookMethod.getD .post)

/-- The fields that a payload is written with. -/
def ofKind : NodeKind → NodeData
  | .message text => { empty with text := text }
  | .question text choices =>
    { empty with text := text, choices := if choices.isEmpty then none else some choices }
  | .condition condition whenTrue whenFalse =>
    { empty with condition := condition, whenTrue := whenTrue, whenFalse := whenFalse }
  | .transfer phone text => { empty with transferNumber := phone, text := text }
  | .closing text => { empty with text := text }
  | .checkAvailability provider text => { empty with provider := provider, text := text }
  | .bookAppointment provider text => { empty with provider := provider, text := text }
  | .crmLookup text => { empty with text := text }
  | .webhook url method => { empty with webhookUrl := url, webhookMethod := some method }

end NodeData

namespace Node

/-- The node with the given id, type and fields. -/
def ofData (id : String) (type : NodeType) (data : NodeData) : Node :=
  ⟨id, data.kind type, data.next⟩

/-- The fields that a node is written with. -/
def data (node : Node) : NodeData :=
  { NodeData.ofKind node.kind with next := node.next }

/-- Reads a node. -/
def decoder : Decoder Node :=
  Decoder.record "struct RawNode"
    (.cons (.required "id" Decoder.string)
      (.cons (.required "type" NodeType.decoder)
      (.cons (.withDefault "data" NodeData.decoder NodeData.empty) .nil)))
    fun (id, type, data, ()) => ofData id type data

/-- The JSON of a node. -/
def toJson (node : Node) : Json :=
  .object [
    ("id", .string node.id),
    ("type", .string node.kind.type.name),
    ("data", node.data.toJson)]

end Node

namespace Edge

/-- Reads an edge. -/
def decoder : Decoder Edge :=
  Decoder.record "struct FlowEdge"
    (.cons (.required "id" Decoder.string)
      (.cons (.required "source" Decoder.string)
      (.cons (.required "target" Decoder.string)
      (.cons (.optional "label" Decoder.string) .nil))))
    fun (id, source, target, label, ()) => ⟨id, source, target, label⟩

/-- The JSON of an edge. -/
def toJson (edge : Edge) : Json :=
  Json.ofFields [
    ("id", some (.string edge.id)),
    ("source", some (.string edge.source)),
    ("target", some (.string edge.target)),
    ("label", Json.ofText? edge.label)]

end Edge

namespace Flow

/-- Reads a flow. -/
def decoder : Decoder Flow :=
  Decoder.record "struct Flow"
    (.cons (.required "id" Decoder.string)
      (.cons (.required "client_id" Decoder.string)
      (.cons (.withDefault "name" Decoder.string "")
      (.cons (.withDefault "nodes" (Decoder.list Node.decoder) [])
      (.cons (.withDefault "edges" (Decoder.list Edge.decoder) [])
      (.cons (.withDefault "version" Decoder.word 0)
      (.cons (.withDefault "active" Decoder.bool false)
      (.cons (.optional "agent_id" Decoder.string) .nil))))))))
    fun (id, clientId, name, nodes, edges, version, active, agentId, ()) =>
      ⟨id, clientId, name, nodes, edges, version, active, agentId⟩

/-- The JSON of a flow. -/
def toJson (flow : Flow) : Json :=
  Json.ofFields [
    ("id", some (.string flow.id)),
    ("client_id", some (.string flow.clientId)),
    ("name", some (.string flow.name)),
    ("nodes", some (.array (flow.nodes.map Node.toJson))),
    ("edges", some (.array (flow.edges.map Edge.toJson))),
    ("version", some (Json.natural flow.version)),
    ("active", some (.bool flow.active)),
    ("agent_id", Json.ofText? flow.agentId)]

end Flow

end CallFlow

import CallFlow.Flow.Codec
import CallFlow.Proofs.Json.Document
import CallFlow.Proofs.Json.Given
import CallFlow.Proofs.Json.ReadBack
import CallFlow.Proofs.Json.Refine

/-!
# The stored form of flows is faithful

A flow is read back from what it is written as, in either layout of the text.  A flow that was read
from any other text may have been given more than it keeps: the fields of a node's `data` that belong
to other kinds of node are dropped, and nothing else is.
-/

namespace CallFlow

open Json

/-! ## Reading back -/

section ReadBack

variable {site : Site}

theorem NodeType.decoder_name (type : NodeType) :
    decoder site (Document.ofJson (.string type.name)) = .ok type := by
  apply Decoder.variant_string
  cases type <;> rfl

theorem SchedulingProvider.decoder_name (provider : SchedulingProvider) :
    decoder site (Document.ofJson (.string provider.name)) = .ok provider := by
  apply Decoder.variant_string
  cases provider <;> rfl

theorem WebhookMethod.decoder_name (method : WebhookMethod) :
    decoder site (Document.ofJson (.string method.name)) = .ok method := by
  apply Decoder.variant_string
  cases method <;> rfl

theorem Choice.decoder_toJson (hroom : site.HasRoom 1) (choice : Choice) :
    decoder site (Document.ofJson choice.toJson) = .ok choice := by
  apply (Decoder.record_present_iff rfl (by decide)).mpr
  refine ⟨hroom.mayEnter, (choice.label, choice.next, ()), ?_, rfl⟩
  exact ⟨rfl, Field.readsBack_text _ _ _, trivial⟩

theorem NodeData.decoder_toJson (hroom : site.HasRoom 3) (data : NodeData) :
    decoder site (Document.ofJson data.toJson) = .ok data := by
  have hinside := hroom.inside
  have hchoices : ∀ choices, data.choices = some choices →
      Json.array (choices.map Choice.toJson) ≠ .null ∧
        Decoder.list Choice.decoder site.inside
          (Document.ofJson (.array (choices.map Choice.toJson))) = .ok choices := by
    intro choices _
    refine ⟨nofun, Decoder.list_map_iff.mpr ⟨hinside.mayEnter, fun choice _ => ?_⟩⟩
    exact Choice.decoder_toJson hinside.inside choice
  apply (Decoder.record_present_iff rfl (by decide)).mpr
  refine ⟨hroom.mayEnter, (data.text, data.next, data.choices, data.condition, data.whenTrue,
    data.whenFalse, data.transferNumber, data.provider, data.webhookUrl, data.webhookMethod, ()),
    ?_, rfl⟩
  exact ⟨Field.readsBack_text _ _ _, Field.readsBack_text _ _ _,
    Field.readsBack_optional_iff.mpr hchoices, Field.readsBack_text _ _ _,
    Field.readsBack_text _ _ _, Field.readsBack_text _ _ _, Field.readsBack_text _ _ _,
    Field.readsBack_optional_iff.mpr fun provider _ => ⟨nofun, provider.decoder_name⟩,
    Field.readsBack_text _ _ _,
    Field.readsBack_optional_iff.mpr fun method _ => ⟨nofun, method.decoder_name⟩, trivial⟩

/-- A node is what its id, its type and its fields amount to. -/
theorem Node.ofData_data (node : Node) : ofData node.id node.kind.type node.data = node := by
  obtain ⟨id, kind, next⟩ := node
  cases kind with
  | question text choices => cases choices <;> rfl
  | _ => rfl

theorem Node.decoder_toJson (hroom : site.HasRoom 4) (node : Node) :
    decoder site (Document.ofJson node.toJson) = .ok node := by
  have hdata := NodeData.decoder_toJson hroom.inside node.data
  change decoder site (Document.ofJson (.object (Members.present [
    ("id", some (.string node.id)), ("type", some (.string node.kind.type.name)),
    ("data", some node.data.toJson)]))) = .ok node
  apply (Decoder.record_present_iff rfl (by decide)).mpr
  refine ⟨hroom.mayEnter, (node.id, node.kind.type, node.data, ()), ?_, node.ofData_data⟩
  exact ⟨rfl, node.kind.type.decoder_name, hdata, trivial⟩

theorem Edge.decoder_toJson (hroom : site.HasRoom 1) (edge : Edge) :
    decoder site (Document.ofJson edge.toJson) = .ok edge := by
  apply (Decoder.record_present_iff rfl (by decide)).mpr
  refine ⟨hroom.mayEnter, (edge.id, edge.source, edge.target, edge.label, ()), ?_, rfl⟩
  exact ⟨rfl, rfl, rfl, Field.readsBack_text _ _ _, trivial⟩

theorem Flow.decoder_toJson (hroom : site.HasRoom 6) (flow : Flow) :
    decoder site (Document.ofJson flow.toJson) = .ok flow := by
  have hinside := hroom.inside
  have hnodes : Decoder.list Node.decoder site.inside
      (Document.ofJson (.array (flow.nodes.map Node.toJson))) = .ok flow.nodes :=
    Decoder.list_map_iff.mpr
      ⟨hinside.mayEnter, fun node _ => Node.decoder_toJson hinside.inside node⟩
  have hedges : Decoder.list Edge.decoder site.inside
      (Document.ofJson (.array (flow.edges.map Edge.toJson))) = .ok flow.edges :=
    Decoder.list_map_iff.mpr
      ⟨hinside.mayEnter, fun edge _ => Edge.decoder_toJson (hinside.inside.mono (by decide)) edge⟩
  apply (Decoder.record_present_iff rfl (by decide)).mpr
  refine ⟨hroom.mayEnter, (flow.id, flow.clientId, flow.name, flow.nodes, flow.edges, flow.version,
    flow.active, flow.agentId, ()), ?_, rfl⟩
  exact ⟨rfl, rfl, rfl, hnodes, hedges, rfl, rfl, Field.readsBack_text _ _ _, trivial⟩

end ReadBack

/-! ## Numbers -/

theorem Choice.whole_toJson (choice : Choice) : choice.toJson.Whole := by
  apply whole_present
  simp only [List.forall_mem_cons]
  exact ⟨fun _ h => Option.some.inj h ▸ .string _, whole_ofText? _, List.forall_mem_nil _⟩

theorem NodeData.whole_toJson (data : NodeData) : data.toJson.Whole := by
  apply whole_present
  simp only [List.forall_mem_cons, Option.map_eq_some_iff]
  refine ⟨whole_ofText? _, whole_ofText? _, ?_, whole_ofText? _, whole_ofText? _, whole_ofText? _,
    whole_ofText? _, ?_, whole_ofText? _, ?_, List.forall_mem_nil _⟩
  · rintro _ ⟨choices, -, rfl⟩
    exact .array (List.forall_mem_map.mpr fun choice _ => choice.whole_toJson)
  · rintro _ ⟨provider, -, rfl⟩
    exact .string _
  · rintro _ ⟨method, -, rfl⟩
    exact .string _

theorem Node.whole_toJson (node : Node) : node.toJson.Whole := by
  refine .object ?_
  simp only [List.forall_mem_cons]
  exact ⟨.string _, .string _, node.data.whole_toJson, List.forall_mem_nil _⟩

theorem Edge.whole_toJson (edge : Edge) : edge.toJson.Whole := by
  apply whole_present
  simp only [List.forall_mem_cons, Option.some.injEq, forall_eq']
  exact ⟨.string _, .string _, .string _, whole_ofText? _, List.forall_mem_nil _⟩

theorem Flow.whole_toJson (flow : Flow) : flow.toJson.Whole := by
  apply whole_present
  simp only [List.forall_mem_cons, Option.some.injEq, forall_eq']
  exact ⟨.string _, .string _, .string _,
    .array (List.forall_mem_map.mpr fun node _ => node.whole_toJson),
    .array (List.forall_mem_map.mpr fun edge _ => edge.whole_toJson),
    .number trivial, .bool _, whole_ofText? _, List.forall_mem_nil _⟩

/-! ## What a text gives a node, and what the node keeps -/

/-- The keys of `data` that belong to a kind of node. -/
def NodeType.ownKeys : NodeType → List String
  | .message | .closing | .crmLookup => ["text"]
  | .question => ["text", "options"]
  | .condition => ["condition", "trueNodeId", "falseNodeId"]
  | .transfer => ["text", "transferNumber"]
  | .checkAvailability | .bookAppointment => ["text", "provider"]
  | .webhook => ["webhookUrl", "webhookMethod"]

/-- A node as a text gives it, with the fields of any kind. -/
structure StoredNode where
  id : String
  type : NodeType
  data : NodeData

namespace StoredNode

/-- Reads a node without choosing among its fields. -/
def decoder : Decoder StoredNode :=
  Decoder.record "struct RawNode"
    (.cons (.required "id" Decoder.string)
      (.cons (.required "type" NodeType.decoder)
      (.cons (.withDefault "data" NodeData.decoder NodeData.empty) .nil)))
    fun (id, type, data, ()) => ⟨id, type, data⟩

/-- The node that is made of what a text gives. -/
def node (stored : StoredNode) : Node :=
  Node.ofData stored.id stored.type stored.data

/-- The fields of a stored node, an empty list of choices as none and a webhook with its method. -/
def tidied (stored : StoredNode) : NodeData :=
  { stored.data with
    choices := stored.data.choices.filter fun choices => !choices.isEmpty
    webhookMethod := some (stored.data.webhookMethod.getD .post) }

/-- The members of `data` that the node keeps: the link, and those that belong to its type. -/
def kept (stored : StoredNode) : Members :=
  stored.tidied.toJson.membersOrEmpty.filter fun member =>
    member.1 ∈ "nextNodeId" :: stored.type.ownKeys

/-- A stored node as it is written again. -/
def rewritten (stored : StoredNode) : Json :=
  .object [
    ("id", .string stored.id),
    ("type", .string stored.type.name),
    ("data", .object stored.kept)]

theorem toJson_data_node (stored : StoredNode) :
    stored.node.data.toJson = .object stored.kept := by
  obtain ⟨id, type, data⟩ := stored
  change Json.object (Members.present _) = Json.object ((Members.present _).filter fun member =>
    member.1 ∈ "nextNodeId" :: type.ownKeys)
  rw [Members.filter_present fun key => key ∈ "nextNodeId" :: type.ownKeys]
  refine congrArg (Json.object ∘ Members.present) ?_
  cases type with
  | question =>
    obtain ⟨text, next, _ | _ | ⟨choice, choices⟩⟩ := data <;> rfl
  | _ => rfl

/-- A node that was read is written with its id, its type, its link and the fields that belong to
its type. -/
theorem toJson_node (stored : StoredNode) : stored.node.toJson = stored.rewritten := by
  have htype : stored.node.kind.type = stored.type := by
    obtain ⟨id, type, data⟩ := stored
    cases type <;> rfl
  rw [Node.toJson, htype, toJson_data_node]
  rfl

theorem decoder_node (site : Site) (document : Document) :
    Node.decoder site document = (decoder site document).map node := by
  cases document with
  | object members missingEnd =>
    rw [Node.decoder, decoder, Decoder.record, Decoder.record, Decoder.map_map]
    rfl
  | array documents missingEnd =>
    rw [Node.decoder, decoder, Decoder.record, Decoder.record, Decoder.map_map]
    rfl
  | _ => rfl

end StoredNode

namespace Flow

/-- Reads a flow together with all that is given for its nodes. -/
def storedDecoder : Decoder (Flow × List StoredNode) :=
  Decoder.record "struct Flow"
    (.cons (.required "id" Decoder.string)
      (.cons (.required "client_id" Decoder.string)
      (.cons (.withDefault "name" Decoder.string "")
      (.cons (.withDefault "nodes" (Decoder.list StoredNode.decoder) [])
      (.cons (.withDefault "edges" (Decoder.list Edge.decoder) [])
      (.cons (.withDefault "version" Decoder.word 0)
      (.cons (.withDefault "active" Decoder.bool false)
      (.cons (.optional "agent_id" Decoder.string) .nil))))))))
    fun (id, clientId, name, stored, edges, version, active, agentId, ()) =>
      (⟨id, clientId, name, stored.map StoredNode.node, edges, version, active, agentId⟩, stored)

theorem storedDecoder_fst (site : Site) (document : Document) :
    decoder site document = (storedDecoder site document).map Prod.fst := by
  rw [decoder, storedDecoder]
  apply Decoder.record_mapsTo
  · exact .cons_self _ (.cons_self _ (.cons_self _ (.cons rfl
      (Decoder.list_map StoredNode.decoder_node) rfl
      (.cons_self _ (.cons_self _ (.cons_self _ (.cons_self _ .nil)))))))
  · intro values
    rfl

/-- Whenever a text is read as a flow, its nodes are what the text gives for them, and they are
written with their own fields. -/
theorem exists_storedDecoder_of_ofText {text : String} {flow : Flow}
    (h : Decoder.ofText decoder text = .ok flow) :
    ∃ stored, Decoder.ofText storedDecoder text = .ok (flow, stored) ∧
      flow.nodes.map Node.toJson = stored.map StoredNode.rewritten := by
  rw [Decoder.ofText_map storedDecoder_fst] at h
  obtain ⟨⟨_, stored⟩, hread, rfl⟩ := Decoder.map_eq_ok_iff.mp h
  refine ⟨stored, hread, ?_⟩
  obtain ⟨values, -, hvalues⟩ := Decoder.gives_of_record (Decoder.eq_ok_of_ofText hread)
  obtain ⟨rfl, rfl⟩ := Prod.ext_iff.mp hvalues
  rw [List.map_map]
  exact List.map_congr_left fun stored _ => stored.toJson_node

theorem ofText_compact_toJson (flow : Flow) :
    Decoder.ofText decoder (compact flow.toJson) = .ok flow := by
  have hroom : Site.HasRoom 6 ⟨.text, 0⟩ := fun _ => by decide
  rw [Decoder.ofText_compact decoder flow.whole_toJson]
  exact decoder_toJson hroom flow

theorem ofText_pretty_toJson (flow : Flow) :
    Decoder.ofText decoder (pretty flow.toJson) = .ok flow := by
  have hroom : Site.HasRoom 6 ⟨.text, 0⟩ := fun _ => by decide
  rw [Decoder.ofText_pretty decoder flow.whole_toJson]
  exact decoder_toJson hroom flow

/-- Every flow is read back from its text in either layout.  What a text gives is written again,
with the fields of each node's own type, to a text from which nothing more is lost. -/
theorem text_roundTrip :
    (∀ flow : Flow, Decoder.ofText decoder (compact flow.toJson) = .ok flow ∧
      Decoder.ofText decoder (pretty flow.toJson) = .ok flow) ∧
    ∀ (text : String) (flow : Flow), Decoder.ofText decoder text = .ok flow →
      (∃ again, Decoder.ofText decoder (compact flow.toJson) = .ok again ∧
        compact again.toJson = compact flow.toJson) ∧
      (∃ again, Decoder.ofText decoder (pretty flow.toJson) = .ok again ∧
        pretty again.toJson = pretty flow.toJson) ∧
      ∃ stored, Decoder.ofText storedDecoder text = .ok (flow, stored) ∧
        flow.nodes.map Node.toJson = stored.map StoredNode.rewritten := by
  refine ⟨fun flow => ⟨flow.ofText_compact_toJson, flow.ofText_pretty_toJson⟩, ?_⟩
  intro text flow h
  exact ⟨⟨flow, flow.ofText_compact_toJson, rfl⟩, ⟨flow, flow.ofText_pretty_toJson, rfl⟩,
    exists_storedDecoder_of_ofText h⟩

/-- A webhook with a text that its kind does not have, and without a method. -/
theorem text_roundTrip_of_spareField :
    let text := compact (.object [("id", .string "f"), ("client_id", .string "c"),
      ("nodes", .array [.object [("id", .string "n"), ("type", .string "webhook"),
        ("data", .object [("text", .string "spare"), ("webhookUrl", .string "u")])]])])
    let flow : Flow := ⟨"f", "c", "", [⟨"n", .webhook (some "u") .post, none⟩], [], 0, false, none⟩
    Decoder.ofText decoder text = .ok flow ∧
      ∃ again, Decoder.ofText decoder (pretty flow.toJson) = .ok again ∧
        pretty again.toJson = pretty flow.toJson := by
  intro text flow
  have hread : Decoder.ofText decoder text = .ok flow := by
    refine (Decoder.ofText_compact decoder (.object ?_)).trans rfl
    simp only [List.forall_mem_cons]
    refine ⟨.string _, .string _, .array ?_, List.forall_mem_nil _⟩
    simp only [List.forall_mem_singleton]
    refine .object ?_
    simp only [List.forall_mem_cons]
    refine ⟨.string _, .string _, .object ?_, List.forall_mem_nil _⟩
    simp only [List.forall_mem_cons]
    exact ⟨.string _, .string _, List.forall_mem_nil _⟩
  exact ⟨hread, (text_roundTrip.2 text flow hread).2.1⟩

end Flow

end CallFlow

import CallFlow.Proofs.Json.Document
import CallFlow.Proofs.Tool.Codec
import CallFlow.Proofs.Tool.Resolve

/-!
# The tools that are built can be stored

The tools of providers and nodes are built from texts, member by member.  Their extra members never
get the key of a field, they hold no numbers, and they are nested only a few containers deep,
whatever the texts are.
-/

namespace CallFlow

open Json

namespace Json

/-- A value in order, with whole numbers, in which few containers are nested. -/
structure Tame (n : Nat) (value : Json) : Prop where
  canonical : value.Canonical
  whole : value.Whole
  within : value.Within n

theorem tame_string (n : Nat) (text : String) : (Json.string text).Tame n :=
  ⟨rfl, .string text, by cases n <;> trivial⟩

theorem tame_bool (n : Nat) (b : Bool) : (Json.bool b).Tame n :=
  ⟨rfl, .bool b, by cases n <;> trivial⟩

theorem tame_array {n : Nat} {items : List Json} (h : ∀ item ∈ items, item.Tame n) :
    (Json.array items).Tame (n + 1) :=
  ⟨canonical_array_iff.mpr fun item hitem => (h item hitem).canonical,
    .array fun item hitem => (h item hitem).whole, fun item hitem => (h item hitem).within⟩

theorem tame_object {n : Nat} {members : Members} (hsorted : members.Sorted)
    (h : ∀ member ∈ members, member.2.Tame n) : (Json.object members).Tame (n + 1) :=
  ⟨canonical_object_iff.mpr ⟨hsorted, fun member hmember => (h member hmember).canonical⟩,
    .object fun member hmember => (h member hmember).whole,
    fun member hmember => (h member hmember).within⟩

theorem tame_nil (n : Nat) : (Json.object []).Tame (n + 1) :=
  tame_object (Members.sorted_of_keys [] rfl (by decide)) (List.forall_mem_nil _)

theorem Tame.sorted {n : Nat} {members : Members} (h : (Json.object members).Tame n) :
    members.Sorted :=
  (canonical_object_iff.mp h.canonical).1

theorem Tame.member {n : Nat} {members : Members} (h : (Json.object members).Tame (n + 1)) :
    ∀ member ∈ members, member.2.Tame n := by
  intro member hmember
  cases h.whole with
  | object hwhole =>
    exact ⟨(canonical_object_iff.mp h.canonical).2 member hmember, hwhole member hmember,
      h.within member hmember⟩

theorem Tame.insert {n : Nat} {members : Members} (h : (Json.object members).Tame (n + 1))
    (key : String) {value : Json} (hvalue : value.Tame n) :
    (Json.object (members.insert key value)).Tame (n + 1) := by
  refine tame_object (Members.sorted_insert h.sorted key value) fun member hmember => ?_
  rcases Members.mem_insert hmember with rfl | hmember
  · exact hvalue
  · exact h.member member hmember

theorem Tame.insertTexts {n : Nat} {members : Members} (h : (Json.object members).Tame (n + 1))
    (texts : List (String × String)) :
    (Json.object (members.insertTexts texts)).Tame (n + 1) := by
  induction texts generalizing members with
  | nil => exact h
  | cons text texts ih => exact ih (h.insert text.1 (tame_string n text.2))

theorem Tame.objectAt {n : Nat} {members : Members} (h : (Json.object members).Tame (n + 2))
    (key : String) : (Json.object (members.objectAt key)).Tame (n + 1) := by
  rw [Members.objectAt]
  cases hvalue : members.get? key with
  | none => exact tame_nil n
  | some value =>
    cases value with
    | object inner => exact h.member _ (Members.mem_of_get? hvalue)
    | _ => exact tame_nil n

end Json

/-! ## Parameters -/

namespace ParameterSchema

/-- A schema whose properties are in order. -/
def Tame (schema : ParameterSchema) : Prop :=
  (Json.object schema.properties).Tame 2

theorem tame_empty : empty.Tame :=
  tame_nil 1

section Property

variable {schema : ParameterSchema} (h : schema.Tame) (name type description : String)

include h

theorem Tame.property : (schema.property name type description).Tame := by
  refine Json.Tame.insert h name (tame_object ?_ ?_)
  · exact Members.sorted_of_keys ["description", "type"] rfl (by decide)
  · simp only [List.forall_mem_cons]
    exact ⟨tame_string 0 _, tame_string 0 _, List.forall_mem_nil _⟩

theorem Tame.requiredProperty : (schema.requiredProperty name type description).Tame :=
  h.property name type description

end Property

theorem Tame.toJson {schema : ParameterSchema} (h : schema.Tame) : schema.toJson.Tame 3 := by
  refine tame_object ?_ ?_
  · exact Members.sorted_of_keys ["properties", "required", "type"] rfl (by decide)
  · simp only [List.forall_mem_cons]
    refine ⟨h, tame_array ?_, tame_string 2 _, List.forall_mem_nil _⟩
    exact List.forall_mem_map.mpr fun name _ => tame_string 1 name

theorem tame_availability : availability.Tame :=
  ((tame_empty.requiredProperty _ _ _).property _ _ _).property _ _ _

theorem tame_booking : booking.Tame :=
  ((((tame_empty.requiredProperty _ _ _).requiredProperty _ _ _).requiredProperty _ _ _).property
    _ _ _).property _ _ _

theorem tame_crmLookup : crmLookup.Tame :=
  tame_empty.requiredProperty _ _ _

theorem tame_webhook : webhook.Tame :=
  (((tame_empty.property _ _ _).property _ _ _).property _ _ _).property _ _ _

end ParameterSchema

namespace Tool

/-- A tool whose extra members and parameters are tame. -/
structure Built (tool : Tool) : Prop where
  other : ∀ key ∈ tool.extra.keys, key ∉ keys
  extra : (Json.object tool.extra).Tame 4
  parameters : ∀ json, tool.parameters = some json → json.Tame 3 ∧ json ≠ .null

theorem Built.lasting {tool : Tool} (h : tool.Built) : tool.Lasting :=
  ⟨⟨h.extra.canonical, h.other⟩, fun json hjson =>
    ⟨(h.parameters json hjson).1.canonical, (h.parameters json hjson).2⟩⟩

theorem built_new (kind name : String) : (new kind name).Built :=
  ⟨List.forall_mem_nil _, tame_nil 3, nofun⟩

/-- The tool with the headers and the identity of a client. -/
def signed (tool : Tool) (client : Client) : Tool :=
  (tool.withField "headers" (.object (((tool.extra.objectAt "headers").insertTexts
    client.headers).insert "X-Client-Id" (.string client.id)))).withField "query_params"
      (.object ((tool.extra.objectAt "query_params").insert "client_id" (.string client.id)))

/-- Binding completes an address or leaves it alone, and signs the tool for the client. -/
theorem bind_cases (binder : Binder) (tool : Tool) (client : Client) :
    binder.bind tool client = tool.signed client ∨
      ∃ url, binder.bind tool client = (tool.withField "url" (.string url)).signed client := by
  rw [Binder.bind, Binder.bindExtra]
  cases absoluteUrl? binder.baseUrl (tool.extra.get? "url") with
  | none => exact .inl rfl
  | some url => exact .inr ⟨url, rfl⟩

section Building

variable {tool : Tool} (h : tool.Built)

include h

theorem Built.withDescription (description : String) : (tool.withDescription description).Built :=
  ⟨h.other, h.extra, h.parameters⟩

theorem Built.withTimeoutMs (timeoutMs : UInt64) : (tool.withTimeoutMs timeoutMs).Built :=
  ⟨h.other, h.extra, h.parameters⟩

theorem Built.withParameters {schema : ParameterSchema} (hschema : schema.Tame) :
    (tool.withParameters schema).Built := by
  refine ⟨h.other, h.extra, fun json hjson => ?_⟩
  obtain rfl := Option.some.inj hjson
  exact ⟨hschema.toJson, nofun⟩

theorem Built.withField {key : String} (hkey : key ∉ keys) {value : Json} (hvalue : value.Tame 3) :
    (tool.withField key value).Built := by
  have hspare : tool.extra.Spare keys := ⟨h.extra.canonical, h.other⟩
  exact ⟨(hspare.insert hkey hvalue.canonical).other, h.extra.insert key hvalue, h.parameters⟩

theorem Built.speaksWhileWorking (message : String) : (tool.speaksWhileWorking message).Built :=
  ((h.withField (by decide) (tame_bool 3 true)).withField (by decide)
    (tame_bool 3 true)).withField (by decide) (tame_string 3 message)

theorem Built.signed (client : Client) : (tool.signed client).Built := by
  have hheaders := ((h.extra.objectAt "headers").insertTexts client.headers).insert "X-Client-Id"
    (tame_string 2 client.id)
  have hquery := (h.extra.objectAt "query_params").insert "client_id" (tame_string 2 client.id)
  exact (h.withField (by decide) hheaders).withField (by decide) hquery

theorem Built.bind (binder : Binder) (client : Client) : (binder.bind tool client).Built := by
  rcases bind_cases binder tool client with hbind | ⟨url, hbind⟩
  · rw [hbind]
    exact h.signed client
  · rw [hbind]
    exact (h.withField (by decide) (tame_string 3 url)).signed client

end Building

theorem built_backend (name path : String) : (backend name path).Built :=
  (((built_new customKind name).withField (by decide) (tame_string 3 path)).withField (by decide)
    (tame_string 3 _)).speaksWhileWorking workingOnIt

/-- A tool that is built is written with whole numbers. -/
theorem Built.whole_toJson {tool : Tool} (h : tool.Built) : tool.toJson.Whole := by
  refine .object (List.forall_mem_append.mpr ⟨Members.forall_mem_present.mpr ?_, ?_⟩)
  · simp only [List.forall_mem_cons, Option.some.injEq, forall_eq']
    refine ⟨.string _, .string _, whole_ofText? _, fun json hjson => ?_, fun json hjson => ?_,
      List.forall_mem_nil _⟩
    · exact (h.parameters json hjson).1.whole
    · obtain ⟨n, -, rfl⟩ := Option.map_eq_some_iff.mp hjson
      exact .number trivial
  · exact fun member hmember => (h.extra.member member hmember).whole

theorem Built.within_toJson {tool : Tool} (h : tool.Built) : tool.toJson.Within 4 := by
  change ∀ member ∈ _ ++ tool.extra, member.2.Within 3
  refine List.forall_mem_append.mpr ⟨Members.forall_mem_present.mpr ?_, ?_⟩
  · simp only [List.forall_mem_cons, Option.some.injEq, forall_eq']
    refine ⟨trivial, trivial, fun json hjson => ?_, fun json hjson => ?_, fun json hjson => ?_,
      List.forall_mem_nil _⟩
    · obtain ⟨text, -, rfl⟩ := Option.map_eq_some_iff.mp hjson
      trivial
    · exact (h.parameters json hjson).1.within
    · obtain ⟨n, -, rfl⟩ := Option.map_eq_some_iff.mp hjson
      trivial
  · exact fun member hmember => (h.extra.member member hmember).within

/-- A tool that is built is read back from its text. -/
theorem Built.ofText_compact_toJson {tool : Tool} (h : tool.Built) :
    Decoder.ofText decoder (compact tool.toJson) = .ok tool := by
  rw [Decoder.ofText_compact decoder h.whole_toJson]
  exact decoder_toJson_iff.mpr ⟨h.lasting, fun _ => h.within_toJson.mono (by decide)⟩

end Tool

namespace Provider

theorem built_of_mem_templates {provider : Provider} {tool : Tool}
    (h : tool ∈ provider.templates) : tool.Built := by
  have htemplate (name path description : String) {schema : ParameterSchema}
      (hschema : schema.Tame) :
      (((Tool.backend name path).withDescription description).withParameters schema).Built :=
    ((Tool.built_backend name path).withDescription description).withParameters hschema
  cases provider with
  | calcom =>
    simp only [templates, List.mem_cons, List.not_mem_nil, or_false] at h
    rcases h with rfl | rfl
    · exact htemplate _ _ _ ParameterSchema.tame_availability
    · exact htemplate _ _ _ ParameterSchema.tame_booking
  | googleCalendar =>
    simp only [templates, List.mem_cons, List.not_mem_nil, or_false] at h
    rcases h with rfl | rfl
    · exact htemplate _ _ _ ParameterSchema.tame_availability
    · exact htemplate _ _ _ ParameterSchema.tame_booking
  | crm =>
    simp only [templates, List.mem_cons, List.not_mem_nil, or_false] at h
    subst h
    exact htemplate _ _ _ ParameterSchema.tame_crmLookup

end Provider

namespace Resolver

variable (resolver : Resolver)

theorem built_webhookTool (name url : String) (method : WebhookMethod) :
    (resolver.webhookTool name url method).Built :=
  ((((((Tool.built_new _ name).withDescription _).withParameters
    ParameterSchema.tame_webhook).withField (by decide) (tame_string 3 url)).withField (by decide)
    (tame_string 3 _)).withTimeoutMs _).speaksWhileWorking _

theorem built_transferTool (name number : String) : (transferTool name number).Built := by
  have hpair {first second : String} (hlt : first < second) (one other : String) :
      (Json.object [(first, .string one), (second, .string other)]).Tame 3 := by
    refine tame_object (Members.sorted_of_keys [first, second] rfl (by simpa using hlt)) ?_
    simp only [List.forall_mem_cons]
    exact ⟨tame_string 2 one, tame_string 2 other, List.forall_mem_nil _⟩
  exact (((Tool.built_new _ name).withDescription _).withField (by decide)
    (hpair (by decide) _ _)).withField (by decide) (hpair (by decide) _ _)

theorem built_of_dynamicTool {node : Node} {name : Option String} {tool : Tool}
    (h : resolver.dynamicTool node name = some tool) : tool.Built := by
  unfold dynamicTool at h
  split at h
  · obtain rfl := Option.some.inj h
    exact resolver.built_webhookTool _ _ _
  · obtain rfl := Option.some.inj h
    exact built_transferTool _ _
  · cases h

/-- Whatever flow it is for, every tool that is resolved can be stored. -/
theorem built_of_mem_tools {providers : ProviderSet} {nodes : List Node} {client : Client}
    {tool : Tool} (h : tool ∈ resolver.resolve providers nodes client) : tool.Built := by
  rw [resolve_eq, List.mem_append] at h
  rcases h with h | h
  · obtain ⟨provider, -, h⟩ := List.mem_flatMap.mp h
    obtain ⟨template, htemplate, rfl⟩ := List.mem_map.mp h
    exact (provider.built_of_mem_templates htemplate).bind resolver.binder client
  · obtain ⟨found, hfound, hsome⟩ := List.mem_filterMap.mp h
    obtain ⟨index, hindex, hget⟩ := List.getElem_of_mem hfound
    rw [List.getElem_zipWith] at hget
    exact resolver.built_of_dynamicTool (hget.trans hsome)

end Resolver

end CallFlow

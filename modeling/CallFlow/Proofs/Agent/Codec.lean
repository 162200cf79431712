import CallFlow.Agent.Record
import CallFlow.Proofs.Tool.Built

/-!
# The stored form of agent records is faithful

Records of agents and of language models keep what they do not know.  What was read is written as
the value that it was read from, up to the normal form of the fields: the tools are in theirs, a
missing list of tools is empty, a script that is `null` is left out, and an engine keeps its own
fields only.
-/

namespace CallFlow

open Json

/-- Members that hold tools and a script, as they are written. -/
def Members.configured (members : Members) : Members :=
  ((members.dropNull ["instruction_script"]).orInsert "tools" (.array [])).mapAt "tools"
    Tool.normalForms

theorem Members.sorted_configured {members : Members} (h : members.Sorted) :
    members.configured.Sorted :=
  sorted_mapAt (sorted_orInsert (sorted_filter h _) _ _) _ _

theorem Members.get?_configured {members : Members} (hdistinct : members.keys.Nodup)
    (key : String) :
    members.configured.get? key =
      if key = "tools" then some (Tool.normalForms ((members.get? "tools").getD (.array [])))
      else if key = "instruction_script" then (members.get? key).filter (!·.isNull)
      else members.get? key := by
  have htools : (members.dropNull ["instruction_script"]).get? "tools" = members.get? "tools" := by
    rw [get?_dropNull hdistinct, if_neg (by decide)]
  rw [configured, get?_mapAt, get?_orInsert, htools, get?_dropNull hdistinct]
  by_cases h : key = "tools"
  · simp [h]
  · simp [h]

variable {site : Site}

/-! ## Language models -/

namespace LlmRecord

/-- The keys of the fields of a language model. -/
def keys : List String :=
  ["llm_id", "tools", "instruction_script"]

/-- Whatever object a language model is read from, it is written as that object in its normal
form. -/
theorem sorted_toJson {members : Members} (hmembers : (object members).Canonical)
    {record : LlmRecord} (h : decoder site (Document.ofJson (.object members)) = .ok record) :
    record.toJson.sorted = .object members.configured := by
  obtain ⟨hsorted, hvalues⟩ := canonical_object_iff.mp hmembers
  have hdistinct := hsorted.nodup_keys
  obtain ⟨⟨llmId, tools, script, _⟩, hreads, rfl⟩ :=
    Decoder.exists_reads_of_openRecord (by decide) hmembers h
  obtain ⟨hllmId, htools, hscript, -⟩ := hreads
  change (Json.object (Members.present [
    ("llm_id", some (.string llmId)), ("tools", some (.array (tools.map Tool.toJson))),
    ("instruction_script", Json.ofText? script)] ++ members.others keys)).sorted = _
  apply Members.sorted_present_append keys rfl (by decide) (Members.spare_others hmembers keys)
  · exact Members.sorted_configured hsorted
  · have htools' := htools.written_withDefault (fun tools => .array (tools.map Tool.toJson))
      Tool.normalForms (fun json hget hread =>
        Tool.sorted_toJson_list (hvalues _ (Members.mem_of_get? hget)) hread) rfl
    simp only [List.forall_mem_cons, Members.get?_configured hdistinct]
    exact ⟨hllmId.written_string, htools', hscript.written_ofText?, List.forall_mem_nil _⟩
  · intro key hkey
    have htools : key ≠ "tools" := by
      rintro rfl
      exact hkey (by decide)
    have hscript : key ≠ "instruction_script" := by
      rintro rfl
      exact hkey (by decide)
    rw [Members.get?_configured hdistinct, if_neg htools, if_neg hscript,
      Members.get?_others keys _ hkey]

/-- A language model that can be stored. -/
structure Lasting (record : LlmRecord) : Prop where
  spare : record.extra.Spare keys
  tools : ∀ tool ∈ record.tools, tool.Lasting

theorem lasting_of_decoder {document : Document} {record : LlmRecord}
    (h : decoder site document = .ok record) : record.Lasting := by
  obtain ⟨⟨llmId, tools, script, _⟩, extra, hgives, hspare, rfl⟩ := Decoder.gives_of_openRecord h
  refine ⟨hspare, ?_⟩
  rcases hgives.2.1 with habsent | ⟨_, _, hread⟩
  · obtain rfl := Option.some.inj habsent
    exact List.forall_mem_nil _
  · exact Tool.lasting_of_list hread

theorem decoder_toJson_iff {record : LlmRecord} :
    decoder site (Document.ofJson record.toJson) = .ok record ↔
      record.Lasting ∧ site.Admits record.toJson := by
  refine iff_and_of_imp lasting_of_decoder fun h => ?_
  obtain ⟨llmId, tools, script, extra⟩ := record
  refine Iff.trans (Decoder.openRecord_readsBack_iff (llmId, tools, script, ()) rfl (by decide)
    ?_ ?_) (Iff.trans ?_ Site.admits_present_append.symm)
  · exact h.spare
  · rintro ⟨llmId', tools', script', _⟩
    simp
  · refine and_congr_right fun _ => and_congr ?_ Iff.rfl
    have htools : (Field.withDefault "tools" (Decoder.list Tool.decoder) []).ReadsBack site.inside
        tools (some (.array (tools.map Tool.toJson))) ↔
          ∀ json, some (Json.array (tools.map Tool.toJson)) = some json →
            site.inside.Admits json := by
      simp only [Option.some.injEq, forall_eq']
      exact Tool.list_decoder_iff.trans (and_iff_right h.tools)
    simp only [List.forall_mem_cons]
    exact and_congr (iff_of_true rfl (Site.admits_some_string llmId))
      (and_congr htools (and_congr (iff_of_true (Field.readsBack_text _ _ _)
        (Site.admits_ofText? script)) (iff_of_true trivial nofun)))

end LlmRecord

/-! ## Engines -/

namespace Engine

/-- An object that is read as an engine, as the engine is written. -/
def normalized (members : Members) : Members :=
  if (members.get? "type").bind Json.asString? = some "llm_ref" then
    members.only ["type", "llm_id"]
  else (members.only ["type", "tools", "instruction_script"]).configured

/-- A value that is read as an engine, as the engine is written. -/
def normalForm : Json → Json
  | .object members => .object (normalized members)
  | value => value

theorem kind_of_lookup {name : String} {kind : Kind}
    (h : [("llm_ref", Kind.llmRef), ("inline", Kind.inline)].lookup name = some kind) :
    (name = "llm_ref" ∧ kind = .llmRef) ∨ (name = "inline" ∧ kind = .inline) := by
  rw [List.lookup_cons, List.lookup_cons] at h
  by_cases hllmRef : name = "llm_ref"
  · subst hllmRef
    exact .inl ⟨rfl, (Option.some.inj h).symm⟩
  · rw [beq_false_of_ne hllmRef] at h
    by_cases hinline : name = "inline"
    · subst hinline
      exact .inr ⟨rfl, (Option.some.inj h).symm⟩
    · rw [beq_false_of_ne hinline] at h
      cases h

theorem get?_erase_tag (members : Members) {key : String} (hkey : key ≠ "type") :
    (members.erase "type").get? key = members.get? key := by
  rw [Members.erase]
  simpa [hkey] using Members.get?_filter (fun key => key != "type") members key

section Tagged

variable {members : Members} (hmembers : (object members).Canonical) {engine : Engine}

include hmembers

theorem nodup_keys_erase_tag : (members.erase "type").keys.Nodup :=
  (Members.sorted_filter (canonical_object_iff.mp hmembers).1 _).nodup_keys

/-- An engine that was read from a tag and the id of a model is written as these. -/
theorem sorted_toJson_llmRef (htag : members.get? "type" = some (.string "llm_ref"))
    (h : content .llmRef site (Document.ofJson (.object (members.erase "type"))) = .ok engine) :
    engine.toJson.sorted = .object (members.only ["type", "llm_id"]) := by
  obtain ⟨hsorted, -⟩ := canonical_object_iff.mp hmembers
  rw [content] at h
  obtain ⟨-, ⟨llmId, _⟩, ⟨hllmId, -⟩, rfl⟩ :=
    (Decoder.record_ofJson_object_iff (by decide) (nodup_keys_erase_tag hmembers)).mp h
  have hllmId' := hllmId.written_string
  rw [get?_erase_tag members (by decide)] at hllmId'
  change (Json.object (Members.present [
    ("type", some (.string "llm_ref")), ("llm_id", some (.string llmId))] ++ [])).sorted = _
  apply Members.sorted_present_append ["type", "llm_id"] rfl (by decide) (Members.spare_nil _)
  · exact Members.sorted_filter hsorted _
  · simp only [List.forall_mem_cons, Members.get?_only]
    exact ⟨htag, hllmId', List.forall_mem_nil _⟩
  · intro key hkey
    rw [Members.get?_only, if_neg hkey]
    rfl

/-- An engine that was read from a tag, tools and a script is written as these, the tools and the
script in their normal form. -/
theorem sorted_toJson_inline (htag : members.get? "type" = some (.string "inline"))
    (h : content .inline site (Document.ofJson (.object (members.erase "type"))) = .ok engine) :
    engine.toJson.sorted =
      .object (members.only ["type", "tools", "instruction_script"]).configured := by
  obtain ⟨hsorted, hvalues⟩ := canonical_object_iff.mp hmembers
  rw [content] at h
  obtain ⟨-, ⟨tools, script, _⟩, ⟨htools, hscript, -⟩, rfl⟩ :=
    (Decoder.record_ofJson_object_iff (by decide) (nodup_keys_erase_tag hmembers)).mp h
  have htools' := htools.written_withDefault (fun tools => .array (tools.map Tool.toJson))
    Tool.normalForms (fun json hjson hread => by
      rw [get?_erase_tag members (by decide)] at hjson
      exact Tool.sorted_toJson_list (hvalues _ (Members.mem_of_get? hjson)) hread) rfl
  have hscript' := hscript.written_ofText?
  rw [get?_erase_tag members (by decide)] at htools' hscript'
  have honly : (members.only ["type", "tools", "instruction_script"]).Sorted :=
    Members.sorted_filter hsorted _
  change (Json.object (Members.present [
    ("type", some (.string "inline")), ("tools", some (.array (tools.map Tool.toJson))),
    ("instruction_script", Json.ofText? script)])).sorted = _
  rw [← List.append_nil (Members.present _)]
  apply Members.sorted_present_append ["type", "tools", "instruction_script"] rfl (by decide)
    (Members.spare_nil _)
  · exact Members.sorted_configured honly
  · simp only [List.forall_mem_cons, Members.get?_configured honly.nodup_keys, Members.get?_only]
    exact ⟨htag, htools', hscript', List.forall_mem_nil _⟩
  · intro key hkey
    rw [Members.get?_configured honly.nodup_keys, Members.get?_only, Members.get?_only]
    simp only [List.mem_cons, List.not_mem_nil, or_false, not_or] at hkey
    simp [hkey]

theorem sorted_toJson (h : decoder site (Document.ofJson (.object members)) = .ok engine) :
    engine.toJson.sorted = .object (normalized members) := by
  have hdistinct := (canonical_object_iff.mp hmembers).1.nodup_keys
  obtain ⟨-, -, json, kind, htag, hkind, hcontent⟩ :=
    (Decoder.tagged_ofJson_object_iff hdistinct).mp h
  obtain ⟨name, rfl, hlookup⟩ := Decoder.variantName_ofJson_iff.mp hkind
  rcases kind_of_lookup hlookup with ⟨rfl, rfl⟩ | ⟨rfl, rfl⟩
  · rw [sorted_toJson_llmRef hmembers htag hcontent, normalized, htag]
    rfl
  · rw [sorted_toJson_inline hmembers htag hcontent, normalized, htag]
    rfl

end Tagged

/-- An engine that can be stored. -/
def Lasting : Engine → Prop
  | .llmRef _ => True
  | .inline tools _ => ∀ tool ∈ tools, tool.Lasting

theorem lasting_of_decoder {document : Document} {engine : Engine}
    (h : decoder site document = .ok engine) : engine.Lasting := by
  obtain ⟨kind, _, _, hcontent⟩ := Decoder.exists_content_of_tagged h
  cases kind with
  | llmRef =>
    rw [content] at hcontent
    obtain ⟨values, -, rfl⟩ := Decoder.gives_of_record hcontent
    trivial
  | inline =>
    rw [content] at hcontent
    obtain ⟨⟨tools, script, _⟩, hgives, rfl⟩ := Decoder.gives_of_record hcontent
    rcases hgives.1 with habsent | ⟨_, _, hread⟩
    · obtain rfl := Option.some.inj habsent
      exact List.forall_mem_nil _
    · exact Tool.lasting_of_list hread

/-- An engine is read back just where it may stand, if its content is read back when it is set
aside. -/
theorem decoder_iff_of_content {name : String} {kind : Kind}
    (written : List (String × Option Json)) (keys : List String) {engine : Engine}
    (hkeys : written.map (·.1) = keys) (hdistinct : ("type" :: keys).Nodup)
    (hname : [("llm_ref", Kind.llmRef), ("inline", Kind.inline)].lookup name = some kind)
    (hcontent : ∀ depth, content kind ⟨.buffer, depth⟩
      (Document.ofJson (.object (Members.present written))) = .ok engine) :
    decoder site (Document.ofJson (.object (("type", .string name) :: Members.present written))) =
        .ok engine ↔ site.Admits (.object (("type", .string name) :: Members.present written)) := by
  subst hkeys
  obtain ⟨htype, hfields⟩ := List.nodup_cons.mp hdistinct
  have hsublist := Members.keys_present_sublist written
  have hfresh : "type" ∉ (Members.present written).keys := fun hmem =>
    htype (hsublist.subset hmem)
  have hnodup : (Members.keys (("type", .string name) :: Members.present written)).Nodup :=
    List.nodup_cons.mpr ⟨hfresh, hsublist.nodup hfields⟩
  have herase : Members.erase "type" (("type", .string name) :: Members.present written) =
      Members.present written := by
    rw [Members.erase, List.filter_cons, if_neg (by simp)]
    refine List.filter_eq_self.mpr fun member hmember => ?_
    have hne : member.1 ≠ "type" := fun h =>
      hfresh (List.mem_map.mpr ⟨member, hmember, h⟩)
    simpa using hne
  refine (Decoder.tagged_ofJson_object_iff hnodup).trans ?_
  rw [herase, Site.admits_object_iff, List.forall_mem_cons]
  refine and_congr_right fun _ => ?_
  have htag : Members.get? (("type", .string name) :: Members.present written) "type" =
      some (.string name) := by
    rw [Members.get?_cons, if_pos rfl]
  constructor
  · rintro ⟨hadmits, -⟩
    exact ⟨Site.admits_string _ name, hadmits⟩
  · rintro ⟨-, hadmits⟩
    exact ⟨hadmits, _, kind, htag, Decoder.variantName_ofJson_iff.mpr ⟨name, rfl, hname⟩,
      hcontent _⟩

theorem decoder_toJson_iff {engine : Engine} :
    decoder site (Document.ofJson engine.toJson) = .ok engine ↔
      engine.Lasting ∧ site.Admits engine.toJson := by
  refine iff_and_of_imp lasting_of_decoder fun h => ?_
  cases engine with
  | llmRef llmId =>
    refine decoder_iff_of_content [("llm_id", some (.string llmId))] ["llm_id"] rfl (by decide) rfl
      fun depth => ?_
    rw [content]
    exact (Decoder.record_present_iff rfl (by decide)).mpr ⟨nofun, (llmId, ()), ⟨rfl, trivial⟩, rfl⟩
  | inline tools script =>
    refine decoder_iff_of_content [("tools", some (.array (tools.map Tool.toJson))),
      ("instruction_script", Json.ofText? script)] ["tools", "instruction_script"] rfl (by decide) rfl
      fun depth => ?_
    have hsource : (Site.inside ⟨.buffer, depth⟩).source ≠ .text := show Source.buffer ≠ .text by
      decide
    have htools : Decoder.list Tool.decoder (Site.inside ⟨.buffer, depth⟩)
        (Document.ofJson (.array (tools.map Tool.toJson))) = .ok tools :=
      Tool.list_decoder_iff.mpr ⟨h, Site.admits_of_source_ne hsource _⟩
    rw [content]
    exact (Decoder.record_present_iff rfl (by decide)).mpr
      ⟨nofun, (tools, script, ()), ⟨htools, Field.readsBack_text _ _ _, trivial⟩, rfl⟩

end Engine

/-! ## Agents -/

namespace AgentRecord

/-- The keys of the fields of an agent. -/
def keys : List String :=
  ["agent_id", "response_engine"]

/-- An object that is read as an agent, as the agent is written. -/
def normalized (members : Members) : Members :=
  (members.dropNull ["response_engine"]).mapAt "response_engine" Engine.normalForm

theorem get?_normalized {members : Members} (hdistinct : members.keys.Nodup) (key : String) :
    (normalized members).get? key =
      if key = "response_engine" then
        ((members.get? key).filter (!·.isNull)).map Engine.normalForm
      else members.get? key := by
  rw [normalized, Members.get?_mapAt, Members.get?_dropNull hdistinct]
  by_cases h : key = "response_engine" <;> simp [h]

/-- Whatever object an agent is read from, it is written as that object in its normal form. -/
theorem sorted_toJson {members : Members} (hmembers : (object members).Canonical)
    (hengine : ∀ json, members.get? "response_engine" = some json →
      json = .null ∨ ∃ engine, json = .object engine)
    {record : AgentRecord} (h : decoder site (Document.ofJson (.object members)) = .ok record) :
    record.toJson.sorted = .object (normalized members) := by
  obtain ⟨hsorted, hvalues⟩ := canonical_object_iff.mp hmembers
  have hdistinct := hsorted.nodup_keys
  obtain ⟨⟨agentId, engine, _⟩, hreads, rfl⟩ :=
    Decoder.exists_reads_of_openRecord (by decide) hmembers h
  obtain ⟨hagentId, hread, -⟩ := hreads
  change (Json.object (Members.present [
    ("agent_id", some (.string agentId)), ("response_engine", engine.map Engine.toJson)] ++
      members.others keys)).sorted = _
  apply Members.sorted_present_append keys rfl (by decide) (Members.spare_others hmembers keys)
  · exact Members.sorted_mapAt (Members.sorted_filter hsorted _) _ _
  · have hengine' := hread.written_optional Engine.toJson Engine.normalForm
      fun json found hget hread => by
        rcases hengine json hget with rfl | ⟨members, rfl⟩
        · cases hread
        · exact Engine.sorted_toJson (hvalues _ (Members.mem_of_get? hget)) hread
    simp only [List.forall_mem_cons, get?_normalized hdistinct]
    exact ⟨hagentId.written_string, hengine', List.forall_mem_nil _⟩
  · intro key hkey
    have hengine : key ≠ "response_engine" := by
      rintro rfl
      exact hkey (by decide)
    rw [get?_normalized hdistinct, if_neg hengine, Members.get?_others keys _ hkey]

/-- An agent that can be stored. -/
structure Lasting (record : AgentRecord) : Prop where
  spare : record.extra.Spare keys
  engine : ∀ engine, record.engine = some engine → engine.Lasting

theorem lasting_of_decoder {document : Document} {record : AgentRecord}
    (h : decoder site document = .ok record) : record.Lasting := by
  obtain ⟨⟨agentId, engine, _⟩, extra, hgives, hspare, rfl⟩ := Decoder.gives_of_openRecord h
  refine ⟨hspare, fun found hfound => ?_⟩
  dsimp only at hfound
  subst hfound
  rcases hgives.2.1 with habsent | ⟨_, _, hread⟩
  · cases habsent
  · exact Engine.lasting_of_decoder (Decoder.nullable_eq_some hread).2

theorem decoder_toJson_iff {record : AgentRecord} :
    decoder site (Document.ofJson record.toJson) = .ok record ↔
      record.Lasting ∧ site.Admits record.toJson := by
  refine iff_and_of_imp lasting_of_decoder fun h => ?_
  obtain ⟨agentId, engine, extra⟩ := record
  refine Iff.trans (Decoder.openRecord_readsBack_iff (agentId, engine, ()) rfl (by decide) ?_ ?_)
    (Iff.trans ?_ Site.admits_present_append.symm)
  · exact h.spare
  · rintro ⟨agentId', engine', _⟩
    simp
  · refine and_congr_right fun _ => and_congr ?_ Iff.rfl
    have hengine : (Field.optional "response_engine" Engine.decoder).ReadsBack site.inside engine
        (engine.map Engine.toJson) ↔
          ∀ json, engine.map Engine.toJson = some json → site.inside.Admits json := by
      rw [Field.readsBack_optional_iff]
      cases engine with
      | none => exact iff_of_true nofun nofun
      | some engine =>
        have hnull : engine.toJson ≠ .null := by cases engine <;> nofun
        simp only [Option.some.injEq, forall_eq', Option.map_some]
        rw [and_iff_right hnull, Engine.decoder_toJson_iff]
        exact and_iff_right (h.engine engine rfl)
    simp only [List.forall_mem_cons]
    exact and_congr (iff_of_true rfl (Site.admits_some_string agentId))
      (and_congr hengine (iff_of_true trivial nofun))

end AgentRecord

/-! ## Changes -/

theorem Patch.decoder_toJson_iff {patch : Patch} :
    decoder site (Document.ofJson patch.toJson) = .ok patch ↔
      (∀ tool ∈ patch.tools, tool.Lasting) ∧ site.Admits patch.toJson := by
  obtain ⟨script, tools⟩ := patch
  change decoder site (Document.ofJson (.object (Members.present [
    ("instruction_script", some (.string script)),
    ("tools", some (.array (tools.map Tool.toJson)))]))) = _ ↔ _
  refine Iff.trans (Decoder.record_present_iff rfl (by decide)) ?_
  have hadmits : site.Admits (toJson ⟨script, tools⟩) ↔
      site.MayEnter ∧ site.inside.Admits (.array (tools.map Tool.toJson)) := by
    rw [toJson, Site.admits_object_iff]
    simp [Site.admits_string]
  rw [hadmits]
  constructor
  · rintro ⟨hmay, ⟨script', tools', _⟩, ⟨-, htools, -⟩, hmake⟩
    cases hmake
    obtain ⟨hlasting, hinside⟩ := Tool.list_decoder_iff.mp htools
    exact ⟨hlasting, hmay, hinside⟩
  · rintro ⟨hlasting, hmay, hinside⟩
    exact ⟨hmay, (script, tools, ()),
      ⟨rfl, Tool.list_decoder_iff.mpr ⟨hlasting, hinside⟩, trivial⟩, rfl⟩

/-! ## Records are preserved -/

theorem Json.admits_value (value : Json) : Site.Admits ⟨.value, 0⟩ value := by
  have hsource : Site.source ⟨.value, 0⟩ ≠ .text := by decide
  exact Site.admits_of_source_ne hsource value

/-- A value that is not read from a text is brought in order. -/
theorem Json.ofJson_any (value : Json) : Decoder.ofJson Decoder.any value = .ok value.sorted :=
  Decoder.any_ofJson_eq_ok_iff.mpr ⟨value.admits_value, rfl⟩

/-- A record of any kind is written as the object that it was read from, in the normal form of its
fields.  A tool is read back from what it is written as just when it can be stored, and every tool
that is resolved can be. -/
theorem records_preserved :
    (∀ (site : Site) (members : Members), (object members).Canonical →
      (∀ tool, Tool.decoder site (Document.ofJson (.object members)) = .ok tool →
        Decoder.ofJson Decoder.any tool.toJson = .ok (.object (Tool.normalized members))) ∧
      (∀ record, LlmRecord.decoder site (Document.ofJson (.object members)) = .ok record →
        Decoder.ofJson Decoder.any record.toJson = .ok (.object members.configured)) ∧
      ∀ record, AgentRecord.decoder site (Document.ofJson (.object members)) = .ok record →
        (∀ json, members.get? "response_engine" = some json →
          json = .null ∨ ∃ engine, json = .object engine) →
        Decoder.ofJson Decoder.any record.toJson =
          .ok (.object (AgentRecord.normalized members))) ∧
    (∀ tool : Tool, Decoder.ofJson Tool.decoder tool.toJson = .ok tool ↔ tool.Lasting) ∧
    ∀ (resolver : Resolver) (providers : ProviderSet) (nodes : List Node) (client : Client),
      ∀ tool ∈ resolver.resolve providers nodes client,
        tool.Lasting ∧ Decoder.ofText Tool.decoder (compact tool.toJson) = .ok tool := by
  refine ⟨fun site members hmembers => ⟨?_, ?_, ?_⟩, fun tool => ?_, ?_⟩
  · intro tool hread
    rw [Json.ofJson_any, Tool.sorted_toJson hmembers hread]
  · intro record hread
    rw [Json.ofJson_any, LlmRecord.sorted_toJson hmembers hread]
  · intro record hread hengine
    rw [Json.ofJson_any, AgentRecord.sorted_toJson hmembers hengine hread]
  · exact Tool.decoder_toJson_iff.trans (and_iff_left tool.toJson.admits_value)
  · intro resolver providers nodes client tool htool
    have hbuilt := resolver.built_of_mem_tools htool
    exact ⟨hbuilt.lasting, hbuilt.ofText_compact_toJson⟩

/-- An agent that carries a tool without a name, and members that nothing here knows. -/
theorem records_preserved_of_unnamedTool :
    let tool : Members := [("description", .null), ("speak", .bool true), ("type", .string "end")]
    let members : Members := [("agent_id", .string "a"), ("response_engine", .object
      [("instruction_script", .null), ("tools", .array [.object tool]), ("type", .string "inline"),
        ("voice", .string "v")]), ("version", .array [.null])]
    let engine := Engine.inline [⟨"end", "", none, none, none, [("speak", .bool true)]⟩] none
    let record : AgentRecord := ⟨"a", some engine, [("version", .array [.null])]⟩
    Decoder.ofJson AgentRecord.decoder (.object members) = .ok record ∧
      Decoder.ofJson Decoder.any record.toJson = .ok (.object [("agent_id", .string "a"),
        ("response_engine", .object [("tools", .array [.object [("name", .string ""),
          ("speak", .bool true), ("type", .string "end")]]), ("type", .string "inline")]),
        ("version", .array [.null])]) := by
  intro tool members engine record
  have hread : Decoder.ofJson AgentRecord.decoder (.object members) = .ok record := rfl
  have hcanonical : (object members).Canonical := rfl
  have hengine : ∀ json, members.get? "response_engine" = some json →
      json = .null ∨ ∃ engine, json = .object engine := by
    rintro json ⟨⟩
    exact .inr ⟨_, rfl⟩
  exact ⟨hread, (records_preserved.1 _ members hcanonical).2.2 record hread hengine⟩

end CallFlow

import CallFlow.Proofs.Agent.Codec
import CallFlow.Proofs.Json.Document

/-!
# Records that survive their own text

A record is recovered from its text if its numbers are whole, nothing in it would be lost, and it is
not nested too deep.  Each of these is a condition on the parts of a record, so that a change whose
tools are recovered leaves a record that is recovered.  An agent holds its tools one container
deeper than a language model or a change does.
-/

namespace CallFlow

open Json

namespace Json

/-- A value that a text can hold: its numbers are whole, and no more containers are nested in it than
given. -/
structure Portable (n : Nat) (value : Json) : Prop where
  whole : value.Whole
  within : value.Within n

variable {n : Nat}

theorem portable_array_iff {items : List Json} :
    (Json.array items).Portable (n + 1) ↔ ∀ item ∈ items, item.Portable n := by
  constructor
  · rintro ⟨hwhole, hwithin⟩ item hitem
    cases hwhole with
    | array hitems => exact ⟨hitems item hitem, hwithin item hitem⟩
  · intro h
    exact ⟨.array fun item hitem => (h item hitem).whole, fun item hitem => (h item hitem).within⟩

theorem portable_object_iff {members : Members} :
    (Json.object members).Portable (n + 1) ↔ ∀ member ∈ members, member.2.Portable n := by
  constructor
  · rintro ⟨hwhole, hwithin⟩ member hmember
    cases hwhole with
    | object hmembers => exact ⟨hmembers member hmember, hwithin member hmember⟩
  · intro h
    exact ⟨.object fun member hmember => (h member hmember).whole,
      fun member hmember => (h member hmember).within⟩

theorem portable_string (text : String) : (Json.string text).Portable n := by
  refine ⟨.string text, ?_⟩
  cases n <;> trivial

theorem portable_ofText? (value : Option String) :
    ∀ json, Json.ofText? value = some json → json.Portable n := by
  intro json hjson
  obtain ⟨text, -, rfl⟩ := Option.map_eq_some_iff.mp hjson
  exact portable_string text

theorem portable_present_append {written : List (String × Option Json)} {extra : Members} :
    (Json.object (Members.present written ++ extra)).Portable (n + 1) ↔
      (∀ field ∈ written, ∀ json, field.2 = some json → json.Portable n) ∧
        ∀ member ∈ extra, member.2.Portable n := by
  rw [portable_object_iff, List.forall_mem_append, Members.forall_mem_present]

/-- A value of a type that is stored as text: written with whole numbers, and read back as it
was. -/
structure Decoder.Recovers {α : Type} (decoder : Decoder α) (toJson : α → Json) (value : α) :
    Prop where
  whole : (toJson value).Whole
  reads : Decoder.ofText decoder (compact (toJson value)) = .ok value

/-- What is read back wherever it may stand is recovered if a text may hold it. -/
theorem Decoder.recovers_iff {α : Type} {decoder : Decoder α} {toJson : α → Json} {value : α}
    {lasting : Prop} (h : ∀ site : Site,
      decoder site (Document.ofJson (toJson value)) = .ok value ↔
        lasting ∧ site.Admits (toJson value)) :
    Decoder.Recovers decoder toJson value ↔ lasting ∧ (toJson value).Portable 127 := by
  constructor
  · rintro ⟨hwhole, hreads⟩
    rw [Decoder.ofText_compact decoder hwhole] at hreads
    obtain ⟨hlasting, hadmits⟩ := (h _).mp hreads
    exact ⟨hlasting, hwhole, hadmits rfl⟩
  · rintro ⟨hlasting, hwhole, hwithin⟩
    refine ⟨hwhole, ?_⟩
    rw [Decoder.ofText_compact decoder hwhole]
    exact (h _).mpr ⟨hlasting, fun _ => hwithin⟩

end Json

/-! ## Tools -/

namespace Tool

/-- A tool that can be stored where so many more containers may be opened. -/
structure Storable (n : Nat) (tool : Tool) : Prop where
  lasting : tool.Lasting
  portable : tool.toJson.Portable n

variable {n : Nat} {tool : Tool} {tools : List Tool}

theorem Storable.mono {m : Nat} (h : tool.Storable m) (hle : m ≤ n) : tool.Storable n :=
  ⟨h.lasting, h.portable.whole, h.portable.within.mono hle⟩

theorem Built.storable (h : tool.Built) (hle : 4 ≤ n) : tool.Storable n :=
  ⟨h.lasting, h.whole_toJson, h.within_toJson.mono hle⟩

theorem forall_storable_iff :
    (∀ tool ∈ tools, tool.Storable n) ↔
      (∀ tool ∈ tools, tool.Lasting) ∧ (Json.array (tools.map toJson)).Portable (n + 1) := by
  rw [portable_array_iff, List.forall_mem_map]
  constructor
  · intro h
    exact ⟨fun tool htool => (h tool htool).lasting, fun tool htool => (h tool htool).portable⟩
  · rintro ⟨hlasting, hportable⟩ tool htool
    exact ⟨hlasting tool htool, hportable tool htool⟩

end Tool

/-! ## Changes -/

theorem Patch.recovers_iff {patch : Patch} :
    Decoder.Recovers decoder toJson patch ↔ ∀ tool ∈ patch.tools, tool.Storable 125 := by
  rw [Decoder.recovers_iff fun site => decoder_toJson_iff, Tool.forall_storable_iff]
  refine and_congr_right fun _ => portable_object_iff.trans ?_
  simp only [List.forall_mem_cons]
  rw [and_iff_right (portable_string _), and_iff_left (List.forall_mem_nil _)]

/-! ## Language models -/

theorem LlmRecord.recovers_iff {record : LlmRecord} :
    Decoder.Recovers decoder toJson record ↔
      record.extra.Spare keys ∧ (∀ member ∈ record.extra, member.2.Portable 126) ∧
        ∀ tool ∈ record.tools, tool.Storable 125 := by
  have hportable : record.toJson.Portable 127 ↔
      (Json.array (record.tools.map Tool.toJson)).Portable 126 ∧
        ∀ member ∈ record.extra, member.2.Portable 126 := by
    refine portable_present_append.trans (and_congr_left fun _ => ?_)
    simp only [List.forall_mem_cons, Option.some.injEq, forall_eq']
    rw [and_iff_right (portable_string _), and_iff_left ⟨portable_ofText? _, List.forall_mem_nil _⟩]
  rw [Decoder.recovers_iff fun site => decoder_toJson_iff, Tool.forall_storable_iff, hportable]
  constructor
  · rintro ⟨⟨hspare, hlasting⟩, htools, hextra⟩
    exact ⟨hspare, hextra, hlasting, htools⟩
  · rintro ⟨hspare, hextra, hlasting, htools⟩
    exact ⟨⟨hspare, hlasting⟩, htools, hextra⟩

/-- A language model stays recoverable when its tools are changed for others that are. -/
theorem LlmRecord.recovers_patched {record : LlmRecord} {patch : Patch}
    (hrecord : Decoder.Recovers decoder toJson record)
    (hpatch : ∀ tool ∈ patch.tools, tool.Storable 125) :
    Decoder.Recovers decoder toJson (record.patched patch) := by
  obtain ⟨hspare, hextra, -⟩ := recovers_iff.mp hrecord
  exact recovers_iff.mpr ⟨hspare, hextra, hpatch⟩

/-! ## Agents -/

/-- An engine that can be stored in the record of an agent. -/
def Engine.Storable : Engine → Prop
  | .llmRef _ => True
  | .inline tools _ => ∀ tool ∈ tools, tool.Storable 124

theorem Engine.storable_iff {engine : Engine} :
    engine.Storable ↔ engine.Lasting ∧ engine.toJson.Portable 126 := by
  cases engine with
  | llmRef llmId =>
    refine iff_of_true trivial ⟨trivial, portable_object_iff.mpr ?_⟩
    simp only [List.forall_mem_cons]
    exact ⟨portable_string _, portable_string _, List.forall_mem_nil _⟩
  | inline tools script =>
    rw [Storable, Tool.forall_storable_iff]
    refine and_congr_right fun _ => Iff.symm ?_
    change (Json.object (Members.present _)).Portable 126 ↔ _
    rw [portable_object_iff, Members.forall_mem_present]
    simp only [List.forall_mem_cons, Option.some.injEq, forall_eq']
    rw [and_iff_right (portable_string _), and_iff_left ⟨portable_ofText? _, List.forall_mem_nil _⟩]

theorem AgentRecord.recovers_iff {record : AgentRecord} :
    Decoder.Recovers decoder toJson record ↔
      record.extra.Spare keys ∧ (∀ member ∈ record.extra, member.2.Portable 126) ∧
        ∀ engine, record.engine = some engine → engine.Storable := by
  have hportable : record.toJson.Portable 127 ↔
      (∀ engine, record.engine = some engine → engine.toJson.Portable 126) ∧
        ∀ member ∈ record.extra, member.2.Portable 126 := by
    refine portable_present_append.trans (and_congr_left fun _ => ?_)
    simp only [List.forall_mem_cons, Option.some.injEq, forall_eq', Option.map_eq_some_iff]
    rw [and_iff_right (portable_string _), and_iff_left (List.forall_mem_nil _)]
    constructor
    · intro h engine hengine
      exact h _ ⟨engine, hengine, rfl⟩
    · rintro h _ ⟨engine, hengine, rfl⟩
      exact h engine hengine
  rw [Decoder.recovers_iff fun site => decoder_toJson_iff, hportable]
  simp only [Engine.storable_iff]
  constructor
  · rintro ⟨⟨hspare, hlasting⟩, hengine, hextra⟩
    exact ⟨hspare, hextra, fun engine h => ⟨hlasting engine h, hengine engine h⟩⟩
  · rintro ⟨hspare, hextra, h⟩
    exact ⟨⟨hspare, fun engine hengine => (h engine hengine).1⟩,
      fun engine hengine => (h engine hengine).2, hextra⟩

/-- An agent stays recoverable when it is given tools that may be stored in it. -/
theorem AgentRecord.recovers_patched {record : AgentRecord} {patch : Patch}
    (hrecord : Decoder.Recovers decoder toJson record)
    (hpatch : ∀ tool ∈ patch.tools, tool.Storable 124) :
    Decoder.Recovers decoder toJson (record.patched patch) := by
  obtain ⟨hspare, hextra, -⟩ := recovers_iff.mp hrecord
  refine recovers_iff.mpr ⟨hspare, hextra, ?_⟩
  rintro engine ⟨⟩
  exact hpatch

end CallFlow

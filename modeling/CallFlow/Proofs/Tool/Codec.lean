import CallFlow.Proofs.Json.Normal
import CallFlow.Tool.Basic

/-!
# The stored form of tools is faithful

A tool that was read is written as the value that it was read from, but for a missing name and for
fields that are `null`.  A tool is read back from its stored form when its extra members have keys of
their own.
-/

namespace CallFlow

open Json

namespace Tool

/-- The keys of the fields of a tool. -/
def keys : List String :=
  ["type", "name", "description", "parameters", "timeout_ms"]

/-- An object that is read as a tool, as the tool is written. -/
def normalized (members : Members) : Members :=
  (members.dropNull ["description", "parameters", "timeout_ms"]).orInsert "name" (.string "")

theorem get?_normalized {members : Members} (hdistinct : members.keys.Nodup) (key : String) :
    (normalized members).get? key =
      if key = "name" then some ((members.get? "name").getD (.string ""))
      else if key ∈ ["description", "parameters", "timeout_ms"] then
        (members.get? key).filter (!·.isNull)
      else members.get? key := by
  have hname : (members.dropNull ["description", "parameters", "timeout_ms"]).get? "name" =
      members.get? "name" := by
    rw [Members.get?_dropNull hdistinct, if_neg (by decide)]
  rw [normalized, Members.get?_orInsert, hname, Members.get?_dropNull hdistinct]

variable {site : Site}

/-- Whatever object a tool is read from, it is written as that object in its normal form. -/
theorem sorted_toJson {members : Members} (hmembers : (object members).Canonical) {tool : Tool}
    (h : decoder site (Document.ofJson (.object members)) = .ok tool) :
    tool.toJson.sorted = .object (normalized members) := by
  obtain ⟨hsorted, hvalues⟩ := canonical_object_iff.mp hmembers
  have hdistinct := hsorted.nodup_keys
  obtain ⟨⟨kind, name, description, parameters, timeoutMs, _⟩, hreads, rfl⟩ :=
    Decoder.exists_reads_of_openRecord (by decide) hmembers h
  obtain ⟨hkind, hname, hdescription, hparameters, htimeout, -⟩ := hreads
  have hany : ∀ key json found, members.get? key = some json →
      Decoder.any site.inside (Document.ofJson json) = .ok found → found.sorted = json := by
    rintro key json found hget hread
    have hcanonical := hvalues _ (Members.mem_of_get? hget)
    rw [← (Decoder.any_ofJson_eq_ok_iff.mp hread).2, hcanonical, hcanonical]
  have hword : ∀ json n, Decoder.word site.inside (Document.ofJson json) = .ok n →
      (Json.natural n).sorted = json := by
    rintro json n hread
    exact (Decoder.word_ofJson_iff.mp hread).symm
  change (Json.object (Members.present [
    ("type", some (.string kind)), ("name", some (.string name)),
    ("description", Json.ofText? description), ("parameters", parameters),
    ("timeout_ms", timeoutMs.map Json.natural)] ++ members.others keys)).sorted = _
  apply Members.sorted_present_append keys rfl (by decide) (Members.spare_others hmembers keys)
  · exact Members.sorted_orInsert (Members.sorted_filter hsorted _) _ _
  · have hname' := hname.written_withDefault .string id (fun json _ hread =>
      (Decoder.string_ofJson_iff.mp hread).symm) rfl
    have hparameters' := hparameters.written_optional id id (hany "parameters")
    have htimeout' := htimeout.written_optional Json.natural id fun json n _ => hword json n
    simp only [Option.map_id_apply] at hparameters' htimeout'
    simp only [List.forall_mem_cons, get?_normalized hdistinct]
    exact ⟨hkind.written_string, hname', hdescription.written_ofText?, hparameters', htimeout',
      List.forall_mem_nil _⟩
  · intro key hkey
    have hname : key ≠ "name" := by
      rintro rfl
      exact hkey (by decide)
    have hnull : key ∉ ["description", "parameters", "timeout_ms"] := fun hmem =>
      hkey (List.mem_cons_of_mem _ (List.mem_cons_of_mem _ hmem))
    rw [get?_normalized hdistinct, if_neg hname, if_neg hnull, Members.get?_others keys _ hkey]

/-- A value that is read as a tool, as the tool is written. -/
def normalForm : Json → Json
  | .object members => .object (normalized members)
  | value => value

/-- A value that is read as a list of tools, as the list is written. -/
def normalForms : Json → Json
  | .array items => .array (items.map normalForm)
  | value => value

theorem sorted_toJson_list {json : Json} (hjson : json.Canonical) {tools : List Tool}
    (h : Decoder.list decoder site (Document.ofJson json) = .ok tools) :
    (Json.array (tools.map toJson)).sorted = normalForms json := by
  obtain ⟨items, rfl⟩ := Decoder.exists_array_of_list h
  have hitems := canonical_array_iff.mp hjson
  obtain ⟨-, hread⟩ := Decoder.list_ofJson_array_iff.mp h
  rw [sorted_array, normalForms, List.map_map, array.injEq]
  clear hjson h
  induction hread with
  | nil => rfl
  | @cons item tool items tools htool _ ih =>
    obtain ⟨hitem, hrest⟩ := List.forall_mem_cons.mp hitems
    obtain ⟨members, rfl⟩ := Decoder.exists_object_of_openRecord htool
    rw [List.map_cons, List.map_cons, ih hrest, Function.comp_apply, sorted_toJson hitem htool]
    rfl

/-! ## Tools that last -/

/-- A tool that can be stored: its extra members have keys of their own and are in order, and its
parameters are in order and not `null`. -/
structure Lasting (tool : Tool) : Prop where
  spare : tool.extra.Spare keys
  parameters : ∀ json, tool.parameters = some json → json.Canonical ∧ json ≠ .null

/-- Every tool that was read can be stored. -/
theorem lasting_of_decoder {document : Document} {tool : Tool}
    (h : decoder site document = .ok tool) : tool.Lasting := by
  obtain ⟨⟨kind, name, description, parameters, timeoutMs, _⟩, extra, hgives, hspare, rfl⟩ :=
    Decoder.gives_of_openRecord h
  obtain ⟨-, -, -, hparameters, -⟩ := hgives
  refine ⟨hspare, fun json hjson => ?_⟩
  dsimp only at hjson
  subst hjson
  rcases hparameters with habsent | ⟨site, document, hread⟩
  · cases habsent
  · obtain ⟨hdocument, hany⟩ := Decoder.nullable_eq_some hread
    refine ⟨Decoder.canonical_of_any hany, ?_⟩
    rintro rfl
    exact hdocument (Decoder.eq_null_of_any hany)

/-- A tool is read back from its stored form, wherever that may stand, just when it can be
stored. -/
theorem decoder_toJson_iff {tool : Tool} :
    decoder site (Document.ofJson tool.toJson) = .ok tool ↔
      tool.Lasting ∧ site.Admits tool.toJson := by
  refine iff_and_of_imp lasting_of_decoder fun h => ?_
  obtain ⟨kind, name, description, parameters, timeoutMs, extra⟩ := tool
  refine Iff.trans (Decoder.openRecord_readsBack_iff
    (kind, name, description, parameters, timeoutMs, ()) rfl (by decide) ?_ ?_)
    (Iff.trans ?_ Site.admits_present_append.symm)
  · exact h.spare
  · rintro ⟨kind', name', description', parameters', timeoutMs', _⟩
    simp
  · refine and_congr_right fun _ => and_congr ?_ Iff.rfl
    simp only [List.forall_mem_cons]
    have hparameters : (Field.optional "parameters" Decoder.any).ReadsBack site.inside parameters
        parameters ↔ ∀ json, parameters = some json → site.inside.Admits json := by
      rw [Field.readsBack_any_iff]
      refine forall₂_congr fun json hjson => ?_
      have hlasts := h.parameters json hjson
      exact ⟨fun h => h.2.1, fun h => ⟨hlasts.2, h, hlasts.1⟩⟩
    have htimeout : (Field.optional "timeout_ms" Decoder.word).ReadsBack site.inside timeoutMs
        (timeoutMs.map Json.natural) := Field.readsBack_optional_iff.mpr fun n _ => ⟨nofun, rfl⟩
    have hnatural : ∀ json, timeoutMs.map Json.natural = some json → site.inside.Admits json := by
      intro json hjson
      obtain ⟨n, -, rfl⟩ := Option.map_eq_some_iff.mp hjson
      exact site.inside.admits_natural n
    exact and_congr (iff_of_true rfl (Site.admits_some_string kind))
      (and_congr (iff_of_true rfl (Site.admits_some_string name))
      (and_congr (iff_of_true (Field.readsBack_text _ _ _) (Site.admits_ofText? description))
      (and_congr hparameters (and_congr (iff_of_true htimeout hnatural)
        (iff_of_true trivial nofun)))))

theorem lasting_of_list {document : Document} {tools : List Tool}
    (h : Decoder.list decoder site document = .ok tools) : ∀ tool ∈ tools, tool.Lasting := by
  intro tool htool
  obtain ⟨_, _, hread⟩ := Decoder.exists_read_of_list h tool htool
  exact lasting_of_decoder hread

theorem list_decoder_iff {tools : List Tool} :
    Decoder.list decoder site (Document.ofJson (.array (tools.map toJson))) = .ok tools ↔
      (∀ tool ∈ tools, tool.Lasting) ∧ site.Admits (.array (tools.map toJson)) := by
  rw [Decoder.list_map_iff, Site.admits_array_iff, List.forall_mem_map]
  simp only [decoder_toJson_iff]
  constructor
  · rintro ⟨hmay, h⟩
    exact ⟨fun tool htool => (h tool htool).1, hmay, fun tool htool => (h tool htool).2⟩
  · rintro ⟨hlasting, hmay, hadmits⟩
    exact ⟨hmay, fun tool htool => ⟨hlasting tool htool, hadmits tool htool⟩⟩

end Tool

end CallFlow

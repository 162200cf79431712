import CallFlow.Proofs.Json.Record
import Mathlib.Data.List.Forall2

/-!
# Reading back what was written

A record is written as its fields in order, those without a value left out, and the members that it
keeps behind them.  Reading the object again comes down to reading each field back by itself.
-/

namespace CallFlow

open Json

namespace Members

/-- The members of fields that are written, without those that have no value. -/
def present (written : List (String × Option Json)) : Members :=
  written.filterMap fun (key, json) => json.map (key, ·)

variable {written : List (String × Option Json)} {extra : Members}

theorem keys_present_sublist (written : List (String × Option Json)) :
    (present written).keys.Sublist (written.map (·.1)) := by
  induction written with
  | nil => exact .slnil
  | cons field written ih =>
    obtain ⟨key, _ | json⟩ := field
    · exact ih.cons key
    · exact ih.cons_cons key

theorem get?_present_append {key : String} {json : Option Json}
    (hfield : (key, json) ∈ written) (hdistinct : (written.map (·.1)).Nodup)
    (hextra : key ∉ extra.keys) : get? (present written ++ extra) key = json := by
  induction written with
  | nil => cases hfield
  | cons field written ih =>
    rw [List.map_cons, List.nodup_cons] at hdistinct
    rcases List.mem_cons.mp hfield with rfl | hfield
    · have hlater : key ∉ keys (present written ++ extra) := by
        intro hkey
        rw [keys, List.map_append, List.mem_append] at hkey
        rcases hkey with hkey | hkey
        · exact hdistinct.1 ((keys_present_sublist written).subset hkey)
        · exact hextra hkey
      cases json with
      | none => exact get?_eq_none_iff.mpr hlater
      | some json =>
        change get? ((key, json) :: (present written ++ extra)) key = some json
        rw [get?_cons, if_pos rfl]
    · have hne : key ≠ field.1 := by
        rintro rfl
        exact hdistinct.1 (List.mem_map.mpr ⟨_, hfield, rfl⟩)
      have hrest := ih hfield hdistinct.2
      obtain ⟨other, _ | value⟩ := field
      · exact hrest
      · change get? ((other, value) :: (present written ++ extra)) key = json
        rw [get?_cons, if_neg hne, hrest]

theorem nodup_keys_present_append (hdistinct : (written.map (·.1)).Nodup)
    (hextra : extra.keys.Nodup) (hother : ∀ key ∈ extra.keys, key ∉ written.map (·.1)) :
    (present written ++ extra).keys.Nodup := by
  rw [keys, List.map_append]
  refine List.nodup_append.mpr ⟨(keys_present_sublist written).nodup hdistinct, hextra, ?_⟩
  rintro key hkey _ hother' rfl
  exact hother key hother' ((keys_present_sublist written).subset hkey)

theorem others_present_append {keys : List String} (hkeys : written.map (·.1) = keys)
    (hother : ∀ key ∈ extra.keys, key ∉ keys) :
    (present written ++ extra).others keys = extra := by
  have hown : (present written).others keys = [] := by
    refine List.filter_eq_nil_iff.mpr fun member hmember => ?_
    have hkey := (keys_present_sublist written).subset (List.mem_map.mpr ⟨member, hmember, rfl⟩)
    simpa [← hkeys] using hkey
  have hkept : extra.others keys = extra := by
    refine List.filter_eq_self.mpr fun member hmember => ?_
    exact decide_eq_true (hother member.1 (List.mem_map.mpr ⟨member, hmember, rfl⟩))
  rw [others, List.filter_append]
  change (present written).others keys ++ extra.others keys = extra
  rw [hown, hkept, List.nil_append]

/-- What holds of all members that are written holds of all values of the fields. -/
theorem forall_mem_present {P : Json → Prop} :
    (∀ member ∈ present written, P member.2) ↔
      ∀ field ∈ written, ∀ json, field.2 = some json → P json := by
  constructor
  · rintro h ⟨key, _⟩ hfield json rfl
    exact h (key, json) (List.mem_filterMap.mpr ⟨_, hfield, rfl⟩)
  · intro h member hmember
    obtain ⟨⟨key, value⟩, hfield, hpresent⟩ := List.mem_filterMap.mp hmember
    obtain ⟨json, rfl, rfl⟩ := Option.map_eq_some_iff.mp hpresent
    exact h _ hfield json rfl

/-- To keep the members of some keys is to leave the others without value. -/
theorem filter_present (test : String → Bool) (written : List (String × Option Json)) :
    (present written).filter (fun member => test member.1) =
      present (written.map fun (key, json) => (key, if test key then json else none)) := by
  induction written with
  | nil => rfl
  | cons field written ih =>
    obtain ⟨key, json⟩ := field
    rw [present, present] at ih
    rw [present, present, List.map_cons, List.filterMap_cons, List.filterMap_cons]
    cases json with
    | none => simpa using ih
    | some json =>
      by_cases hkey : test key = true
      · simpa [hkey] using ih
      · simpa [hkey] using ih

end Members

namespace Json

variable {β : Type} {βs : List Type}

/-- What a field is written with, if anything, is read back as its value. -/
def Field.ReadsBack (field : Field β) (site : Site) (value : β) : Option Json → Prop
  | some json => field.read site (Document.ofJson json) = .ok value
  | none => field.absent = some value

/-- Each field is read back from what it is written with. -/
def Fields.ReadsBack (site : Site) {βs : List Type} :
    Fields βs → Values βs → List (String × Option Json) → Prop
  | .cons field rest, (value, values), (_, json) :: written =>
    field.ReadsBack site value json ∧ rest.ReadsBack site values written
  | _, _, _ => True

theorem Fields.reads_iff_readsBack {site : Site} {members : Members} {fields : Fields βs}
    {values : Values βs} {written : List (String × Option Json)}
    (hkeys : written.map (·.1) = fields.keys)
    (hget : ∀ field ∈ written, members.get? field.1 = field.2) :
    fields.Reads site members values ↔ fields.ReadsBack site values written := by
  induction fields generalizing written with
  | nil => exact ⟨fun _ => trivial, fun _ => trivial⟩
  | cons field rest ih =>
    obtain ⟨value, values⟩ := values
    obtain _ | ⟨⟨key, json⟩, written⟩ := written
    · cases hkeys
    · obtain ⟨rfl, hlater⟩ := List.cons.inj hkeys
      obtain ⟨hfirst, hrest⟩ := List.forall_mem_cons.mp hget
      have hfield : field.Reads site members value ↔ field.ReadsBack site value json := by
        rw [Field.Reads, hfirst]
        cases json <;> exact Iff.rfl
      exact and_congr hfield (ih hlater hrest)

namespace Decoder

variable {α : Type} {name : String} {fields : Fields βs} {site : Site}
  {written : List (String × Option Json)} {extra : Members} {result : α}

/-- A record that is written with its fields is read back just when the fields are. -/
theorem record_present_iff {make : Values βs → α} (hkeys : written.map (·.1) = fields.keys)
    (hdistinct : fields.keys.Nodup) :
    record name fields make site (Document.ofJson (.object (Members.present written))) =
        .ok result ↔
      site.MayEnter ∧
        ∃ values, fields.ReadsBack site.inside values written ∧ make values = result := by
  have hwritten : (written.map (·.1)).Nodup := hkeys ▸ hdistinct
  have hmembers : (Members.present written).keys.Nodup :=
    (Members.keys_present_sublist written).nodup hwritten
  have hget : ∀ field ∈ written, (Members.present written).get? field.1 = field.2 := by
    intro field hfield
    obtain ⟨key, json⟩ := field
    have hnone : key ∉ Members.keys [] := nofun
    have h := Members.get?_present_append hfield hwritten hnone
    rwa [List.append_nil] at h
  rw [record_ofJson_object_iff hdistinct hmembers]
  simp only [Fields.reads_iff_readsBack hkeys hget]

/-- An open record that is written with its fields and with members that it keeps is read back just
when the fields are, the kept members in their canonical form. -/
theorem openRecord_present_iff {make : Values βs → Members → α}
    (hkeys : written.map (·.1) = fields.keys) (hdistinct : fields.keys.Nodup)
    (hextra : extra.keys.Nodup) (hother : ∀ key ∈ extra.keys, key ∉ fields.keys) :
    openRecord name fields make site
        (Document.ofJson (.object (Members.present written ++ extra))) = .ok result ↔
      site.MayEnter ∧ (∀ member ∈ extra, site.inside.Admits member.2) ∧
        ∃ values, fields.ReadsBack site.inside values written ∧
          make values (Members.ofList (extra.map fun member => (member.1, member.2.sorted))) =
            result := by
  have hwritten : (written.map (·.1)).Nodup := hkeys ▸ hdistinct
  have hmembers := Members.nodup_keys_present_append hwritten hextra (by rwa [hkeys])
  have hget : ∀ field ∈ written, (Members.present written ++ extra).get? field.1 = field.2 := by
    intro field hfield
    refine Members.get?_present_append hfield hwritten fun hkey => ?_
    exact hother _ hkey (hkeys ▸ List.mem_map.mpr ⟨field, hfield, rfl⟩)
  rw [openRecord_ofJson_object_iff hdistinct hmembers, Members.others_present_append hkeys hother]
  simp only [Fields.reads_iff_readsBack hkeys hget]

/-! ## Lists and values that may be missing -/

theorem items_ofItems_iff {read : Decoder α} {items : List Json} {values : List α} :
    Decoder.items read site (Document.ofItems items) = .ok values ↔
      List.Forall₂ (fun item value => read site (Document.ofJson item) = .ok value) items values := by
  induction items generalizing values with
  | nil =>
    rw [List.forall₂_nil_left_iff, Document.ofItems, Decoder.items, Except.ok.injEq, eq_comm]
  | cons item items ih =>
    rw [Document.ofItems, Decoder.items, List.forall₂_cons_left_iff]
    cases hread : read site (Document.ofJson item) with
    | error problem => simp
    | ok value =>
      simp only [map_eq_ok_iff, ih, Except.ok.injEq]
      constructor
      · rintro ⟨rest, hrest, rfl⟩
        exact ⟨value, rest, rfl, hrest, rfl⟩
      · rintro ⟨_, rest, rfl, hrest, rfl⟩
        exact ⟨rest, hrest, rfl⟩

theorem list_ofJson_array_iff {read : Decoder α} {items : List Json} {values : List α} :
    list read site (Document.ofJson (.array items)) = .ok values ↔
      site.MayEnter ∧ List.Forall₂
        (fun item value => read site.inside (Document.ofJson item) = .ok value) items values := by
  rw [Document.ofJson, list, Site.enter_eq, ← items_ofItems_iff]
  by_cases hmay : site.MayEnter
  · rw [if_pos hmay, and_iff_right hmay]
    cases hitems : Decoder.items read site.inside (Document.ofItems items) <;> simp [finish, hitems]
  · simp [hmay]

/-- A list is read back just when its items are. -/
theorem list_map_iff {read : Decoder α} {write : α → Json} {values : List α} :
    list read site (Document.ofJson (.array (values.map write))) = .ok values ↔
      site.MayEnter ∧
        ∀ value ∈ values, read site.inside (Document.ofJson (write value)) = .ok value := by
  rw [list_ofJson_array_iff, List.forall₂_map_left_iff, List.forall₂_same]

theorem nullable_eq_some_iff {read : Decoder α} {json : Json} {value : α} :
    nullable read site (Document.ofJson json) = .ok (some value) ↔
      json ≠ .null ∧ read site (Document.ofJson json) = .ok value := by
  cases json <;> simp [Document.ofJson, nullable, map_eq_ok_iff]

theorem nullable_eq_none_iff {read : Decoder α} {json : Json} :
    nullable read site (Document.ofJson json) = .ok none ↔ json = .null := by
  cases json <;> simp [Document.ofJson, nullable, map_eq_ok_iff]

theorem string_ofJson_iff {json : Json} {text : String} :
    string site (Document.ofJson json) = .ok text ↔ json = .string text := by
  cases json <;> simp [Document.ofJson, string]

theorem word_ofJson_iff {json : Json} {n : UInt64} :
    word site (Document.ofJson json) = .ok n ↔ json = Json.natural n := by
  cases json with
  | number m => cases m <;> simp [Document.ofJson, word, Json.natural]
  | _ => simp [Document.ofJson, word, Json.natural]

theorem exists_array_of_list {read : Decoder α} {json : Json} {values : List α}
    (h : list read site (Document.ofJson json) = .ok values) : ∃ items, json = .array items := by
  cases json with
  | array items => exact ⟨items, rfl⟩
  | _ => cases h

theorem exists_object_of_openRecord {make : Values βs → Members → α} {json : Json}
    (h : openRecord name fields make site (Document.ofJson json) = .ok result) :
    ∃ members, json = .object members := by
  cases json with
  | object members => exact ⟨members, rfl⟩
  | _ => cases h

theorem variantName_ofJson_iff {variants : List (String × β)} {known : List String} {json : Json}
    {kind : β} :
    variantName variants known (Document.ofJson json) = .ok kind ↔
      ∃ name, json = .string name ∧ variants.lookup name = some kind := by
  cases json with
  | string name =>
    rw [Document.ofJson, variantName, namedVariant]
    cases hlookup : variants.lookup name <;> simp [hlookup]
  | _ => simp [Document.ofJson, variantName]

/-- A variant is read back from a name that is read as it. -/
theorem variant_string {variants : List (String × β)} {known : List String} {kind : β}
    (h : variants.lookup name = some kind) :
    variant variants known site (Document.ofJson (.string name)) = .ok kind := by
  have hnamed : namedVariant variants known name = .ok kind := by rw [namedVariant, h]
  rw [variant]
  split
  · exact hnamed
  · exact hnamed

end Decoder

/-- A field that may be missing is read back just when its value is, and is not written as `null`. -/
theorem Field.readsBack_optional_iff {key : String} {read : Decoder β} {site : Site}
    {write : β → Json} {value : Option β} :
    (Field.optional key read).ReadsBack site value (value.map write) ↔
      ∀ found, value = some found →
        write found ≠ .null ∧ read site (Document.ofJson (write found)) = .ok found := by
  cases value with
  | none => exact ⟨fun _ => nofun, fun _ => rfl⟩
  | some found =>
    change Decoder.nullable read site (Document.ofJson (write found)) = .ok (some found) ↔ _
    rw [Decoder.nullable_eq_some_iff]
    constructor
    · intro h other hother
      obtain rfl := Option.some.inj hother
      exact h
    · intro h
      exact h found rfl

theorem Field.readsBack_text (key : String) (site : Site) (value : Option String) :
    (Field.optional key Decoder.string).ReadsBack site value (Json.ofText? value) :=
  readsBack_optional_iff.mpr fun _ _ => ⟨nofun, rfl⟩

/-- Any value is read back just when it may stand where it does and is in order. -/
theorem Field.readsBack_any_iff {key : String} {site : Site} {value : Option Json} :
    (Field.optional key Decoder.any).ReadsBack site value value ↔
      ∀ json, value = some json → json ≠ .null ∧ site.Admits json ∧ json.Canonical := by
  have h : (Field.optional key Decoder.any).ReadsBack site value (value.map id) ↔ _ :=
    readsBack_optional_iff
  simp only [Option.map_id_apply, id, Decoder.any_ofJson_eq_ok_iff] at h
  exact h

/-! ## Whole numbers -/

/-- A written record has only whole numbers when its fields do. -/
theorem whole_present {written : List (String × Option Json)}
    (h : ∀ field ∈ written, ∀ json, field.2 = some json → json.Whole) :
    (Json.object (Members.present written)).Whole :=
  .object (Members.forall_mem_present.mpr h)

theorem whole_ofText? (value : Option String) :
    ∀ json, Json.ofText? value = some json → json.Whole := by
  intro json hjson
  obtain ⟨text, -, rfl⟩ := Option.map_eq_some_iff.mp hjson
  exact .string text

end Json

end CallFlow

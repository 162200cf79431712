import CallFlow.Proofs.Json.Given
import CallFlow.Proofs.Json.ReadBack

/-!
# What writing makes of what was read

An object that is read as an open record and written again is the same value up to the changes that
its fields make: a field that is `null` is left out, one that is missing is written with the value
that it has by itself, and a value may be written in a form of its own.
-/

namespace CallFlow

open Json

/-- Whether a value is `null`. -/
def Json.isNull : Json → Bool
  | .null => true
  | _ => false

namespace Members

/-- Leaves out the given keys where they hold `null`. -/
def dropNull (keys : List String) (members : Members) : Members :=
  members.filter fun member => ¬(member.1 ∈ keys ∧ member.2.isNull = true)

/-- Puts a value under a key that is missing. -/
def orInsert (key : String) (value : Json) (members : Members) : Members :=
  if (members.get? key).isSome then members else members.insert key value

/-- Changes the value under a key. -/
def mapAt (key : String) (change : Json → Json) (members : Members) : Members :=
  members.map fun (k, value) => (k, if k = key then change value else value)

/-- Leaves out all but the given keys. -/
def only (keys : List String) (members : Members) : Members :=
  members.filter fun member => member.1 ∈ keys

theorem get?_dropNull {members : Members} (hdistinct : members.keys.Nodup) (keys : List String)
    (key : String) :
    get? (dropNull keys members) key =
      if key ∈ keys then (get? members key).filter (!·.isNull) else get? members key := by
  induction members with
  | nil => simp [dropNull]
  | cons member members ih =>
    obtain ⟨k, value⟩ := member
    rw [Members.keys, List.map_cons, List.nodup_cons] at hdistinct
    have hrest := ih hdistinct.2
    rw [dropNull] at hrest
    rw [dropNull, List.filter_cons, get?_cons]
    by_cases hdrop : k ∈ keys ∧ value.isNull = true
    · rw [if_neg (by simpa using hdrop), hrest]
      by_cases hkey : key = k
      · subst hkey
        have hnone : get? members key = none := get?_eq_none_iff.mpr hdistinct.1
        simp [hnone, hdrop, Option.filter]
      · simp [hkey]
    · rw [if_pos (decide_eq_true hdrop), get?_cons, hrest]
      by_cases hkey : key = k
      · subst hkey
        rw [if_pos rfl, if_pos rfl]
        by_cases hmem : key ∈ keys
        · have hnull : value.isNull = false := by simpa [hmem] using hdrop
          simp [hmem, hnull, Option.filter]
        · simp [hmem]
      · simp [hkey]

theorem get?_orInsert (members : Members) (key other : String) (value : Json) :
    get? (orInsert key value members) other =
      if other = key then some ((get? members key).getD value) else get? members other := by
  rw [orInsert]
  cases hvalue : get? members key with
  | none =>
    rw [if_neg (by simp), get?_insert]
    rfl
  | some found =>
    rw [if_pos (by simp)]
    by_cases h : other = key
    · rw [if_pos h, h, hvalue]
      rfl
    · rw [if_neg h]

theorem get?_mapAt (members : Members) (key other : String) (change : Json → Json) :
    get? (mapAt key change members) other =
      if other = key then (get? members other).map change else get? members other := by
  induction members with
  | nil => simp [mapAt]
  | cons member members ih =>
    obtain ⟨k, value⟩ := member
    rw [mapAt] at ih
    rw [mapAt, List.map_cons, get?_cons, ih, get?_cons]
    by_cases hkey : other = k
    · subst hkey
      by_cases h : other = key <;> simp [h]
    · simp [hkey]

theorem get?_only (keys : List String) (members : Members) (key : String) :
    get? (only keys members) key = if key ∈ keys then get? members key else none := by
  rw [only]
  simpa using get?_filter (fun key => key ∈ keys) members key

theorem sorted_orInsert {members : Members} (h : Sorted members) (key : String) (value : Json) :
    Sorted (orInsert key value members) := by
  rw [orInsert]
  split
  · exact h
  · exact sorted_insert h key value

theorem sorted_mapAt {members : Members} (h : Sorted members) (key : String)
    (change : Json → Json) : Sorted (mapAt key change members) :=
  List.pairwise_map.mpr h

theorem get?_others (keys : List String) (members : Members) {key : String} (h : key ∉ keys) :
    get? (members.others keys) key = get? members key := by
  rw [others]
  simpa [h] using get?_filter (fun key => key ∉ keys) members key

theorem spare_others {members : Members} (h : (object members).Canonical) (keys : List String) :
    (members.others keys).Spare keys := by
  obtain ⟨hsorted, hvalues⟩ := canonical_object_iff.mp h
  refine ⟨canonical_object_iff.mpr ⟨sorted_filter hsorted _, fun member hmember => ?_⟩, ?_⟩
  · exact hvalues member (List.mem_filter.mp hmember).1
  · intro key hkey
    obtain ⟨member, hmember, rfl⟩ := List.mem_map.mp hkey
    simpa using (List.mem_filter.mp hmember).2

/-- Members that were kept in their canonical form stay as they are when they are read again. -/
theorem ofList_of_canonical {members : Members} (h : (object members).Canonical) :
    ofList (members.map fun member => (member.1, member.2.sorted)) = members := by
  rw [Canonical, Json.sorted, sortedMembers_eq, object.injEq] at h
  exact h

/-- A record is written as the value that has, under each key, what the field is written with or the
spare member. -/
theorem sorted_present_append (keys : List String) {written : List (String × Option Json)}
    {extra expected : Members} (hkeys : written.map (·.1) = keys) (hdistinct : keys.Nodup)
    (hextra : extra.Spare keys) (hexpected : expected.Sorted)
    (hown : ∀ field ∈ written, expected.get? field.1 = field.2.map Json.sorted)
    (hother : ∀ key, key ∉ keys → expected.get? key = extra.get? key) :
    (Json.object (present written ++ extra)).sorted = .object expected := by
  subst hkeys
  obtain ⟨hsorted, hvalues⟩ := canonical_object_iff.mp hextra.canonical
  have hnodup := nodup_keys_present_append hdistinct hsorted.nodup_keys hextra.other
  refine sorted_object_eq hnodup hexpected fun key => ?_
  by_cases hkey : key ∈ written.map (·.1)
  · obtain ⟨⟨_, json⟩, hfield, rfl⟩ := List.mem_map.mp hkey
    have hfresh : _ ∉ extra.keys := fun hmem => hextra.other _ hmem hkey
    rw [hown _ hfield, get?_present_append hfield hdistinct hfresh]
  · have hnone : get? (present written) key = none :=
      get?_eq_none_iff.mpr fun hmem => hkey ((keys_present_sublist written).subset hmem)
    rw [hother key hkey, get?_append, hnone, Option.none_or]
    cases hvalue : extra.get? key with
    | none => rfl
    | some value => rw [Option.map_some, hvalues _ (mem_of_get? hvalue)]

end Members

namespace Json

variable {β : Type} {key : String} {read : Decoder β} {site : Site} {members : Members}
  (write : β → Json) (change : Json → Json)

/-! ## Open records -/

/-- An open record that is read from a value in order keeps the other members as they are. -/
theorem Decoder.exists_reads_of_openRecord {α : Type} {βs : List Type} {name : String}
    {fields : Fields βs} {make : Values βs → Members → α} (hdistinct : fields.keys.Nodup)
    (hmembers : (object members).Canonical) {result : α}
    (h : openRecord name fields make site (Document.ofJson (.object members)) = .ok result) :
    ∃ values, fields.Reads site.inside members values ∧
      make values (members.others fields.keys) = result := by
  have hnodup := (canonical_object_iff.mp hmembers).1.nodup_keys
  obtain ⟨-, -, values, hreads, hmake⟩ := (openRecord_ofJson_object_iff hdistinct hnodup).mp h
  have hspare := Members.spare_others hmembers fields.keys
  rw [Members.ofList_of_canonical hspare.canonical] at hmake
  exact ⟨values, hreads, hmake⟩

theorem Site.admits_present_append {written : List (String × Option Json)} {extra : Members} :
    site.Admits (.object (Members.present written ++ extra)) ↔
      site.MayEnter ∧
        (∀ field ∈ written, ∀ json, field.2 = some json → site.inside.Admits json) ∧
        ∀ member ∈ extra, site.inside.Admits member.2 := by
  rw [Site.admits_object_iff, List.forall_mem_append, Members.forall_mem_present]

/-- What can be read back must be able to last; what can last is read back where it may stand. -/
theorem iff_and_of_imp {P Q R : Prop} (hlasts : P → Q) (h : Q → (P ↔ R)) : P ↔ Q ∧ R := by
  constructor
  · intro hread
    exact ⟨hlasts hread, (h (hlasts hread)).mp hread⟩
  · rintro ⟨hlasting, hadmits⟩
    exact (h hlasting).mpr hadmits

theorem Site.admits_some_string (text : String) :
    ∀ json, some (Json.string text) = some json → site.Admits json := by
  rintro json hjson
  obtain rfl := Option.some.inj hjson
  exact site.admits_string text

theorem Site.admits_ofText? (value : Option String) :
    ∀ json, Json.ofText? value = some json → site.Admits json := by
  intro json hjson
  obtain ⟨text, -, rfl⟩ := Option.map_eq_some_iff.mp hjson
  exact site.admits_string text

/-- An open record that keeps spare members is read back just when its fields are and the members
may stand where they do. -/
theorem Decoder.openRecord_readsBack_iff {α : Type} {βs : List Type} {name : String}
    {fields : Fields βs} {make : Values βs → Members → α}
    {written : List (String × Option Json)} {extra : Members} (own : Values βs) {result : α}
    (hkeys : written.map (·.1) = fields.keys) (hdistinct : fields.keys.Nodup)
    (hextra : extra.Spare fields.keys) (hmake : ∀ values, make values extra = result ↔ values = own) :
    openRecord name fields make site
        (Document.ofJson (.object (Members.present written ++ extra))) = .ok result ↔
      site.MayEnter ∧ fields.ReadsBack site.inside own written ∧
        ∀ member ∈ extra, site.inside.Admits member.2 := by
  rw [openRecord_present_iff hkeys hdistinct hextra.sorted.nodup_keys hextra.other,
    Members.ofList_of_canonical hextra.canonical]
  simp only [hmake, exists_eq_right]
  exact and_congr_right fun _ => and_comm

/-! ## What a field is written with, by what was under its key -/

theorem Field.Reads.written_required {value : β}
    (h : (Field.required key read).Reads site members value)
    (hwrite : ∀ json, members.get? key = some json →
      read site (Document.ofJson json) = .ok value → (write value).sorted = change json) :
    (members.get? key).map change = (some (write value)).map sorted := by
  rw [Field.Reads, Field.required] at h
  cases hget : members.get? key with
  | none => simp [hget] at h
  | some json =>
    simp only [hget] at h
    rw [Option.map_some, Option.map_some, hwrite json hget h]

theorem Field.Reads.written_withDefault {value absent : β}
    (h : (Field.withDefault key read absent).Reads site members value)
    (hwrite : ∀ json, members.get? key = some json →
      read site (Document.ofJson json) = .ok value → (write value).sorted = change json)
    (habsent : (write absent).sorted = change (write absent)) :
    some (change ((members.get? key).getD (write absent))) = (some (write value)).map sorted := by
  rw [Field.Reads, Field.withDefault] at h
  cases hget : members.get? key with
  | none =>
    simp only [hget] at h
    obtain rfl := Option.some.inj h
    rw [Option.getD_none, Option.map_some, habsent]
  | some json =>
    simp only [hget] at h
    rw [Option.getD_some, Option.map_some, hwrite json hget h]

theorem Field.Reads.written_optional {value : Option β}
    (h : (Field.optional key read).Reads site members value)
    (hwrite : ∀ json found, members.get? key = some json →
      read site (Document.ofJson json) = .ok found → (write found).sorted = change json) :
    ((members.get? key).filter (!·.isNull)).map change = (value.map write).map sorted := by
  rw [Field.Reads, Field.optional] at h
  cases hget : members.get? key with
  | none =>
    simp only [hget] at h
    obtain rfl := Option.some.inj h
    rfl
  | some json =>
    simp only [hget] at h
    cases value with
    | none =>
      obtain rfl := Decoder.nullable_eq_none_iff.mp h
      rfl
    | some found =>
      obtain ⟨hnull, hread⟩ := Decoder.nullable_eq_some_iff.mp h
      have hkeep : (some json).filter (!·.isNull) = some json := by
        cases json with
        | null => exact absurd rfl hnull
        | _ => rfl
      rw [hkeep, Option.map_some, Option.map_some, Option.map_some, hwrite json found hget hread]

theorem Field.Reads.written_string {text : String}
    (h : (Field.required key Decoder.string).Reads site members text) :
    members.get? key = (some (Json.string text)).map sorted := by
  have hwritten := h.written_required .string id fun json _ hread =>
    (Decoder.string_ofJson_iff.mp hread).symm
  rwa [Option.map_id_apply] at hwritten

theorem Field.Reads.written_ofText? {text : Option String}
    (h : (Field.optional key Decoder.string).Reads site members text) :
    (members.get? key).filter (!·.isNull) = (Json.ofText? text).map sorted := by
  have hwritten := h.written_optional .string id fun json found _ hread =>
    (Decoder.string_ofJson_iff.mp hread).symm
  rwa [Option.map_id_apply] at hwritten

end Json

end CallFlow

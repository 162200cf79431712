import CallFlow.Json.Record
import CallFlow.Proofs.Json.Canonical

/-!
# Reading records from values

An object in which no key repeats is read field by field: each field reads what is under its key, or
takes its own value when nothing is.  In which order the members stand makes no difference.  The
members that no field asks for are passed over, or kept in their canonical form.
-/

namespace CallFlow.Json

variable {β : Type} {βs : List Type}

/-- The value that a field has in an object. -/
def Field.Reads (field : Field β) (site : Site) (members : Members) (value : β) : Prop :=
  match members.get? field.key with
  | some json => field.read site (Document.ofJson json) = .ok value
  | none => field.absent = some value

/-- The value that a field comes to when members follow on what was read so far. -/
def Field.Completes (field : Field β) (site : Site) (members : Members) : Option β → β → Prop
  | some found, value => found = value
  | none, value => field.Reads site members value

theorem Field.reads_cons_of_ne {field : Field β} {site : Site} {key : String} {json : Json}
    {members : Members} {value : β} (h : key ≠ field.key) :
    field.Reads site ((key, json) :: members) value ↔ field.Reads site members value := by
  rw [Field.Reads, Field.Reads, Members.get?_cons, if_neg (Ne.symm h)]

theorem Field.completes_cons_of_ne {field : Field β} {site : Site} {key : String} {json : Json}
    {members : Members} {slot : Option β} {value : β} (h : key ≠ field.key) :
    field.Completes site ((key, json) :: members) slot value ↔
      field.Completes site members slot value := by
  cases slot with
  | some found => exact Iff.rfl
  | none => exact reads_cons_of_ne h

namespace Fields

/-- The keys of the fields in order. -/
def keys {βs : List Type} : Fields βs → List String
  | .nil => []
  | .cons field rest => field.key :: rest.keys

/-- The values that the fields have in an object. -/
def Reads (site : Site) (members : Members) {βs : List Type} : Fields βs → Values βs → Prop
  | .nil, _ => True
  | .cons field rest, (value, values) =>
    field.Reads site members value ∧ rest.Reads site members values

/-- The values that the fields come to when members follow on what was read so far. -/
def Completes (site : Site) (members : Members) {βs : List Type} :
    Fields βs → Slots βs → Values βs → Prop
  | .nil, _, _ => True
  | .cons field rest, (slot, slots), (value, values) =>
    field.Completes site members slot value ∧ rest.Completes site members slots values

/-- No field that was read is among the members that follow. -/
def Fresh (members : Members) {βs : List Type} : Fields βs → Slots βs → Prop
  | .nil, _ => True
  | .cons field rest, (slot, slots) =>
    (slot.isSome → field.key ∉ members.keys) ∧ rest.Fresh members slots

theorem offer_cons {site : Site} {key : String} {document : Document} {field : Field β}
    {rest : Fields βs} {slot : Option β} {slots : Slots βs} :
    (cons field rest).offer site key document (slot, slots) =
      if key = field.key then
        match slot with
        | some _ => some (.error (.duplicateField key))
        | none => some ((field.read site document).map fun value => (some value, slots))
      else
        (rest.offer site key document slots).map fun result =>
          result.map fun slots => (slot, slots) := by
  cases slot <;> rw [offer]

theorem completes_emptySlots {site : Site} {members : Members} {fields : Fields βs}
    {values : Values βs} :
    fields.Completes site members fields.emptySlots values ↔ fields.Reads site members values := by
  induction fields with
  | nil => exact Iff.rfl
  | cons field rest ih =>
    obtain ⟨value, values⟩ := values
    exact and_congr_right fun _ => ih

theorem fresh_emptySlots {members : Members} {fields : Fields βs} :
    fields.Fresh members fields.emptySlots := by
  induction fields with
  | nil => trivial
  | cons field rest ih => exact ⟨nofun, ih⟩

theorem values_eq_ok_iff (site : Site) {fields : Fields βs} {slots : Slots βs}
    {values : Values βs} :
    fields.values slots = .ok values ↔ fields.Completes site [] slots values := by
  induction fields with
  | nil => exact ⟨fun _ => trivial, fun _ => rfl⟩
  | @cons β βs field rest ih =>
    obtain ⟨slot, slots⟩ := slots
    obtain ⟨value, values⟩ := values
    have hrest (found : β) :
        (rest.values slots).map (found, ·) = .ok (value, values) ↔
          found = value ∧ rest.Completes site [] slots values := by
      simp [Decoder.map_eq_ok_iff, ← ih, and_comm]
    cases slot with
    | some found => exact hrest found
    | none =>
      rw [Fields.values, Completes, Field.Completes, Field.Reads]
      cases habsent : field.absent with
      | none => simp
      | some found =>
        simp only [Option.none_or, Members.get?_nil, Option.some.injEq]
        exact hrest found

theorem offer_eq_none_iff {site : Site} {key : String} {document : Document} {fields : Fields βs}
    {slots : Slots βs} : fields.offer site key document slots = none ↔ key ∉ fields.keys := by
  induction fields with
  | nil => simp [offer, keys]
  | cons field rest ih =>
    obtain ⟨slot, slots⟩ := slots
    rw [offer_cons, keys, List.mem_cons, not_or]
    by_cases h : key = field.key
    · rw [if_pos h]
      cases slot <;> simp [h]
    · rw [if_neg h, Option.map_eq_none_iff, ih, and_iff_right h]

section Member

variable {site : Site} {key : String} {json : Json} {members : Members} {fields : Fields βs}
  {slots : Slots βs}

theorem Fresh.tail (h : fields.Fresh ((key, json) :: members) slots) :
    fields.Fresh members slots := by
  induction fields with
  | nil => trivial
  | cons field rest ih =>
    obtain ⟨slot, slots⟩ := slots
    exact ⟨fun hsome hmem => h.1 hsome (List.mem_cons_of_mem _ hmem), ih h.2⟩

/-- A member that no field asks for makes no difference to the fields. -/
theorem completes_cons_of_not_mem (hkey : key ∉ fields.keys) {values : Values βs} :
    fields.Completes site ((key, json) :: members) slots values ↔
      fields.Completes site members slots values := by
  induction fields with
  | nil => exact Iff.rfl
  | cons field rest ih =>
    obtain ⟨slot, slots⟩ := slots
    obtain ⟨value, values⟩ := values
    rw [keys, List.mem_cons, not_or] at hkey
    exact and_congr (Field.completes_cons_of_ne hkey.1) (ih hkey.2)

/-- A member that a field asks for is read into its slot, and settles what the field has. -/
theorem completes_cons_iff (hdistinct : fields.keys.Nodup) (hkey : key ∉ members.keys)
    (hfresh : fields.Fresh ((key, json) :: members) slots) {result : Except Problem (Slots βs)}
    (hoffer : fields.offer site key (Document.ofJson json) slots = some result)
    {values : Values βs} :
    fields.Completes site ((key, json) :: members) slots values ↔
      ∃ found, result = .ok found ∧ fields.Completes site members found values := by
  induction fields with
  | nil => cases hoffer
  | cons field rest ih =>
    obtain ⟨slot, slots⟩ := slots
    obtain ⟨value, values⟩ := values
    rw [keys, List.nodup_cons] at hdistinct
    rw [offer_cons] at hoffer
    by_cases h : key = field.key
    · rw [if_pos h] at hoffer
      subst h
      cases slot with
      | some found => exact absurd List.mem_cons_self (hfresh.1 rfl)
      | none =>
        obtain rfl := Option.some.inj hoffer
        rw [Completes, completes_cons_of_not_mem hdistinct.1, Field.Completes, Field.Reads,
          Members.get?_cons, if_pos rfl]
        simp only [Decoder.map_eq_ok_iff]
        constructor
        · rintro ⟨hread, hrest⟩
          exact ⟨_, ⟨value, hread, rfl⟩, rfl, hrest⟩
        · rintro ⟨_, ⟨found, hread, rfl⟩, rfl, hrest⟩
          exact ⟨hread, hrest⟩
    · rw [if_neg h, Option.map_eq_some_iff] at hoffer
      obtain ⟨result, hoffer, rfl⟩ := hoffer
      rw [Completes, Field.completes_cons_of_ne h, ih hdistinct.2 hfresh.2 hoffer]
      simp only [Decoder.map_eq_ok_iff]
      constructor
      · rintro ⟨hslot, found, rfl, hrest⟩
        exact ⟨_, ⟨found, rfl, rfl⟩, hslot, hrest⟩
      · rintro ⟨_, ⟨found, rfl, rfl⟩, hslot, hrest⟩
        exact ⟨hslot, found, rfl, hrest⟩

theorem Fresh.of_offer (hkey : key ∉ members.keys)
    (hfresh : fields.Fresh ((key, json) :: members) slots) {found : Slots βs}
    (hoffer : fields.offer site key (Document.ofJson json) slots = some (.ok found)) :
    fields.Fresh members found := by
  induction fields with
  | nil => trivial
  | cons field rest ih =>
    obtain ⟨slot, slots⟩ := slots
    have htail := hfresh.tail
    rw [offer_cons] at hoffer
    by_cases h : key = field.key
    · rw [if_pos h] at hoffer
      cases slot with
      | some value => cases hoffer
      | none =>
        obtain ⟨value, -, rfl⟩ := Decoder.map_eq_ok_iff.mp (Option.some.inj hoffer)
        exact ⟨fun _ => h ▸ hkey, htail.2⟩
    · rw [if_neg h, Option.map_eq_some_iff] at hoffer
      obtain ⟨result, hoffer, hfound⟩ := hoffer
      obtain ⟨others, rfl, rfl⟩ := Decoder.map_eq_ok_iff.mp hfound
      exact ⟨htail.1, ih hfresh.2 hoffer⟩

end Member

/-! ## The other members -/

/-- What becomes of the members that no field asks for. -/
def leftOver (other : Other) (site : Site) : List (String × Json) → Members → Except Problem Members
  | [], extra => .ok extra
  | (key, json) :: rest, extra =>
    match other site (Document.ofJson json) with
    | .error problem => .error problem
    | .ok none => leftOver other site rest extra
    | .ok (some value) => leftOver other site rest (extra.insert key value)

theorem leftOver_passOver (site : Site) (members : List (String × Json)) (extra : Members) :
    leftOver passOver site members extra = .ok extra := by
  induction members with
  | nil => rfl
  | cons member members ih =>
    have hpass : passOver site (Document.ofJson member.2) = .ok none := by
      rw [passOver, Decoder.skip_ofJson]
      rfl
    simp only [leftOver, hpass, ih]

theorem leftOver_keep_eq_ok_iff {site : Site} {members : List (String × Json)} (extra : Members)
    {result : Members} :
    leftOver keep site members extra = .ok result ↔
      (∀ member ∈ members, site.Admits member.2) ∧
        extra.insertAll (members.map fun member => (member.1, member.2.sorted)) = result := by
  induction members generalizing extra with
  | nil => simp [leftOver, Members.insertAll]
  | cons member members ih =>
    obtain ⟨key, json⟩ := member
    rw [leftOver, keep, Decoder.anyReads json site]
    by_cases h : site.Admits json
    · rw [if_pos h]
      simp [Except.map, ih, h, Members.insertAll]
    · simp [Except.map, h]

/-! ## Objects -/

/-- In an object without repeated keys the fields are read from what is under their keys. -/
theorem gather_ofMembers_iff {other : Other} {site : Site} {fields : Fields βs}
    (hdistinct : fields.keys.Nodup) {members : Members} (hmembers : members.keys.Nodup)
    {slots : Slots βs} (hfresh : fields.Fresh members slots) {extra result : Members}
    {values : Values βs} :
    (∃ found, fields.gather other site (Document.ofMembers members) slots extra =
        .ok (found, result) ∧ fields.values found = .ok values) ↔
      fields.Completes site members slots values ∧
        leftOver other site (members.others fields.keys) extra = .ok result := by
  induction members generalizing slots extra with
  | nil =>
    simp only [Document.ofMembers, gather, Members.others, List.filter_nil, leftOver,
      Except.ok.injEq, Prod.mk.injEq, values_eq_ok_iff site]
    constructor
    · rintro ⟨_, ⟨rfl, rfl⟩, hvalues⟩
      exact ⟨hvalues, rfl⟩
    · rintro ⟨hvalues, rfl⟩
      exact ⟨slots, ⟨rfl, rfl⟩, hvalues⟩
  | cons member members ih =>
    obtain ⟨key, json⟩ := member
    rw [Members.keys, List.map_cons, List.nodup_cons] at hmembers
    rw [Document.ofMembers, gather]
    cases hoffer : fields.offer site key (Document.ofJson json) slots with
    | none =>
      have hkey : key ∉ fields.keys := offer_eq_none_iff.mp hoffer
      rw [completes_cons_of_not_mem hkey, Members.others, List.filter_cons,
        if_pos (decide_eq_true hkey), leftOver]
      cases other site (Document.ofJson json) with
      | error problem => simp
      | ok kept => cases kept <;> exact ih hmembers.2 hfresh.tail
    | some offered =>
      have hkey : key ∈ fields.keys := by
        by_contra hkey
        rw [offer_eq_none_iff.mpr hkey] at hoffer
        cases hoffer
      rw [completes_cons_iff hdistinct hmembers.1 hfresh hoffer, Members.others, List.filter_cons,
        if_neg (by simpa using hkey)]
      cases offered with
      | error problem => simp
      | ok found =>
        simp only [Except.ok.injEq, exists_eq_left']
        exact ih hmembers.2 (hfresh.of_offer hmembers.1 hoffer)

theorem readObject_ofMembers_iff {other : Other} {site : Site} {fields : Fields βs}
    (hdistinct : fields.keys.Nodup) {members : Members} (hmembers : members.keys.Nodup)
    {values : Values βs} {extra : Members} :
    fields.readObject other site (Document.ofMembers members) none = .ok (values, extra) ↔
      site.MayEnter ∧ fields.Reads site.inside members values ∧
        leftOver other site.inside (members.others fields.keys) [] = .ok extra := by
  rw [readObject, Site.enter_eq]
  by_cases hmay : site.MayEnter
  · rw [if_pos hmay, and_iff_right hmay, ← completes_emptySlots,
      ← gather_ofMembers_iff hdistinct hmembers fresh_emptySlots]
    simp only
    cases fields.gather other site.inside (Document.ofMembers members) fields.emptySlots [] with
    | error problem => simp
    | ok gathered =>
      obtain ⟨found, kept⟩ := gathered
      simp [Decoder.map_eq_ok_iff, and_comm, and_assoc]
  · simp [hmay]

end Fields

namespace Decoder

variable {α : Type}

theorem record_ofJson_object_iff {name : String} {fields : Fields βs} {make : Values βs → α}
    {site : Site} (hdistinct : fields.keys.Nodup) {members : Members}
    (hmembers : members.keys.Nodup) {result : α} :
    record name fields make site (Document.ofJson (.object members)) = .ok result ↔
      site.MayEnter ∧ ∃ values, fields.Reads site.inside members values ∧ make values = result := by
  rw [Document.ofJson, record, map_eq_ok_iff]
  constructor
  · rintro ⟨⟨values, extra⟩, hread, rfl⟩
    obtain ⟨hmay, hvalues, -⟩ := (Fields.readObject_ofMembers_iff hdistinct hmembers).mp hread
    exact ⟨hmay, values, hvalues, rfl⟩
  · rintro ⟨hmay, values, hvalues, rfl⟩
    have hpass := Fields.leftOver_passOver site.inside (members.others fields.keys) []
    have hread := (Fields.readObject_ofMembers_iff hdistinct hmembers).mpr ⟨hmay, hvalues, hpass⟩
    exact ⟨_, hread, rfl⟩

theorem openRecord_ofJson_object_iff {name : String} {fields : Fields βs}
    {make : Values βs → Members → α} {site : Site} (hdistinct : fields.keys.Nodup)
    {members : Members} (hmembers : members.keys.Nodup) {result : α} :
    openRecord name fields make site (Document.ofJson (.object members)) = .ok result ↔
      site.MayEnter ∧
        (∀ member ∈ members.others fields.keys, site.inside.Admits member.2) ∧
        ∃ values, fields.Reads site.inside members values ∧
          make values (Members.ofList ((members.others fields.keys).map fun member =>
            (member.1, member.2.sorted))) = result := by
  rw [Document.ofJson, openRecord, map_eq_ok_iff]
  constructor
  · rintro ⟨⟨values, extra⟩, hread, rfl⟩
    obtain ⟨hmay, hvalues, hkept⟩ := (Fields.readObject_ofMembers_iff hdistinct hmembers).mp hread
    obtain ⟨hadmits, rfl⟩ := (Fields.leftOver_keep_eq_ok_iff []).mp hkept
    exact ⟨hmay, hadmits, values, hvalues, rfl⟩
  · rintro ⟨hmay, hadmits, values, hvalues, rfl⟩
    have hkept := (Fields.leftOver_keep_eq_ok_iff []).mpr ⟨hadmits, rfl⟩
    have hread := (Fields.readObject_ofMembers_iff hdistinct hmembers).mpr ⟨hmay, hvalues, hkept⟩
    exact ⟨_, hread, rfl⟩

/-! ## Tagged values -/

theorem splitTag_cons_of_ne {tag key : String} {readTag : Document → Except Problem β}
    {site : Site} {document : Document} {members : List (Document.Key × Document)}
    (hkey : key ≠ tag) (found : Option β) :
    splitTag tag readTag site ((.ok key, document) :: members) found =
      match any site document with
      | .error problem => .error problem
      | .ok _ =>
        (splitTag tag readTag site members found).map
          fun (found, members) => (found, (.ok key, document) :: members) := by
  cases found <;> exact if_neg hkey

open Classical in
theorem splitTag_of_not_mem {tag : String} {readTag : Document → Except Problem β} {site : Site}
    {members : Members} (htag : tag ∉ members.keys) (found : Option β) :
    splitTag tag readTag site (Document.ofMembers members) found =
      if ∀ member ∈ members, site.Admits member.2 then .ok (found, Document.ofMembers members)
      else .error (.malformed .tooDeep) := by
  induction members with
  | nil => simp [Document.ofMembers, splitTag]
  | cons member members ih =>
    obtain ⟨key, json⟩ := member
    rw [Members.keys, List.map_cons, List.mem_cons, not_or] at htag
    have hcons : (∀ member ∈ (key, json) :: members, site.Admits member.2) ↔
        site.Admits json ∧ ∀ member ∈ members, site.Admits member.2 := List.forall_mem_cons
    rw [Document.ofMembers, splitTag_cons_of_ne (Ne.symm htag.1), ih htag.2, anyReads json site]
    by_cases hadmits : site.Admits json
    · by_cases hrest : ∀ member ∈ members, site.Admits member.2
      · rw [if_pos hadmits, if_pos hrest, if_pos (hcons.mpr ⟨hadmits, hrest⟩)]
        rfl
      · rw [if_pos hadmits, if_neg hrest, if_neg fun h => hrest (hcons.mp h).2]
        rfl
    · rw [if_neg hadmits, if_neg fun h => hadmits (hcons.mp h).1]

/-- Of an object in which no key repeats, the tag is read and the other members are set aside. -/
theorem splitTag_ofMembers_iff {tag : String} {readTag : Document → Except Problem β} {site : Site}
    {members : Members} (hmembers : members.keys.Nodup) {kind : β}
    {others : List (Document.Key × Document)} :
    splitTag tag readTag site (Document.ofMembers members) none = .ok (some kind, others) ↔
      (∃ json, members.get? tag = some json ∧ readTag (Document.ofJson json) = .ok kind) ∧
        (∀ member ∈ members.erase tag, site.Admits member.2) ∧
          Document.ofMembers (members.erase tag) = others := by
  induction members generalizing others with
  | nil => simp [Document.ofMembers, splitTag]
  | cons member members ih =>
    obtain ⟨key, json⟩ := member
    rw [Members.keys, List.map_cons, List.nodup_cons] at hmembers
    rw [Document.ofMembers, Members.get?_cons, Members.erase, List.filter_cons]
    by_cases htag : key = tag
    · subst htag
      have herase : members.filter (fun member => member.1 != key) = members := by
        rw [List.filter_eq_self]
        intro member hmember
        have hne : member.1 ≠ key := fun h =>
          hmembers.1 (h ▸ List.mem_map.mpr ⟨member, hmember, rfl⟩)
        simpa using hne
      have hfresh : key ∉ Members.keys members := hmembers.1
      rw [splitTag, if_pos rfl, if_pos rfl, if_neg (by simp), herase]
      cases hread : readTag (Document.ofJson json) with
      | error problem => simp [hread]
      | ok found =>
        simp only [splitTag_of_not_mem hfresh]
        by_cases hadmits : ∀ member ∈ members, site.Admits member.2
        · rw [if_pos hadmits, and_iff_right hadmits]
          simp [hread]
        · rw [if_neg hadmits]
          refine iff_of_false ?_ fun h => hadmits h.2.1
          intro herror
          cases herror
    · rw [splitTag_cons_of_ne htag, if_neg (Ne.symm htag), if_pos (by simpa using htag),
        anyReads json site]
      by_cases hadmits : site.Admits json
      · simp only [if_pos hadmits, map_eq_ok_iff, Prod.exists, Prod.mk.injEq]
        constructor
        · rintro ⟨_, rest, hsplit, rfl, rfl⟩
          obtain ⟨hkind, hrest, rfl⟩ := (ih hmembers.2).mp hsplit
          exact ⟨hkind, List.forall_mem_cons.mpr ⟨hadmits, hrest⟩, rfl⟩
        · rintro ⟨hkind, hrest, rfl⟩
          exact ⟨_, _, (ih hmembers.2).mpr ⟨hkind, (List.forall_mem_cons.mp hrest).2, rfl⟩,
            rfl, rfl⟩
      · simp [hadmits]

theorem tagged_ofJson_object_iff {name tag : String} {variants : List (String × β)}
    {known : List String} {content : β → Decoder α} {site : Site} {members : Members}
    (hmembers : members.keys.Nodup) {result : α} :
    tagged name tag variants known content site (Document.ofJson (.object members)) =
        .ok result ↔
      site.MayEnter ∧ (∀ member ∈ members.erase tag, site.inside.Admits member.2) ∧
        ∃ json kind, members.get? tag = some json ∧
          variantName variants known (Document.ofJson json) = .ok kind ∧
          content kind ⟨.buffer, site.inside.depth⟩
            (Document.ofJson (.object (members.erase tag))) = .ok result := by
  rw [Document.ofJson, tagged, Site.enter_eq]
  by_cases hmay : site.MayEnter
  · rw [if_pos hmay, and_iff_right hmay]
    simp only
    constructor
    · intro h
      cases hsplit : splitTag tag (variantName variants known) site.inside
          (Document.ofMembers members) none with
      | error problem => simp [hsplit] at h
      | ok split =>
        obtain ⟨_ | kind, others⟩ := split
        · simp [hsplit] at h
        · obtain ⟨⟨json, htag, hkind⟩, hadmits, rfl⟩ := (splitTag_ofMembers_iff hmembers).mp hsplit
          rw [hsplit] at h
          exact ⟨hadmits, json, kind, htag, hkind, h⟩
    · rintro ⟨hadmits, json, kind, htag, hkind, hcontent⟩
      have hsplit := (splitTag_ofMembers_iff hmembers).mpr ⟨⟨json, htag, hkind⟩, hadmits, rfl⟩
      rw [hsplit]
      exact hcontent
  · simp [hmay]

end Decoder

end CallFlow.Json

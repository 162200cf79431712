import CallFlow.Proofs.Json.Record

/-!
# What reading a record gives

Whatever the document, a record that was read holds values that its fields read somewhere or have by
themselves.  The members that an open record keeps are in order, and none of them has the key of a
field.
-/

namespace CallFlow

open Json

/-- Members that an open record may keep besides the fields with the given keys. -/
structure Members.Spare (keys : List String) (extra : Members) : Prop where
  canonical : (object extra).Canonical
  other : ∀ key ∈ extra.keys, key ∉ keys

theorem Members.spare_nil (keys : List String) : Members.Spare keys [] :=
  ⟨rfl, nofun⟩

theorem Members.Spare.sorted {keys : List String} {extra : Members} (h : extra.Spare keys) :
    extra.Sorted :=
  (canonical_object_iff.mp h.canonical).1

theorem Members.Spare.insert {keys : List String} {extra : Members} (h : extra.Spare keys)
    {key : String} (hkey : key ∉ keys) {value : Json} (hvalue : value.Canonical) :
    (extra.insert key value).Spare keys := by
  have hpairs : ∀ pair ∈ [(key, value)], pair.2.Canonical := by
    intro pair hpair
    rwa [List.mem_singleton.mp hpair]
  refine ⟨canonical_insertAll h.canonical hpairs, fun other hother => ?_⟩
  obtain ⟨member, hmember, rfl⟩ := List.mem_map.mp hother
  rcases Members.mem_insert hmember with rfl | hmember
  · exact hkey
  · exact h.other _ (List.mem_map.mpr ⟨member, hmember, rfl⟩)

namespace Json

variable {α β : Type} {βs : List Type}

/-- A value that a field may come to hold. -/
def Field.Gives (field : Field β) (value : β) : Prop :=
  field.absent = some value ∨ ∃ site document, field.read site document = .ok value

namespace Fields

/-- Values that the fields may come to hold. -/
def Gives {βs : List Type} : Fields βs → Values βs → Prop
  | .nil, _ => True
  | .cons field rest, (value, values) => field.Gives value ∧ rest.Gives values

/-- Slots that hold what the fields may come to hold. -/
def Gave {βs : List Type} : Fields βs → Slots βs → Prop
  | .nil, _ => True
  | .cons field rest, (slot, slots) =>
    (∀ value, slot = some value → field.Gives value) ∧ rest.Gave slots

theorem gave_emptySlots (fields : Fields βs) : fields.Gave fields.emptySlots := by
  induction fields with
  | nil => trivial
  | cons field rest ih => exact ⟨nofun, ih⟩

theorem Gave.of_offer {fields : Fields βs} {slots found : Slots βs} (h : fields.Gave slots)
    {site : Site} {key : String} {document : Document}
    (hoffer : fields.offer site key document slots = some (.ok found)) : fields.Gave found := by
  induction fields with
  | nil => trivial
  | cons field rest ih =>
    obtain ⟨slot, slots⟩ := slots
    rw [offer_cons] at hoffer
    by_cases hkey : key = field.key
    · rw [if_pos hkey] at hoffer
      cases slot with
      | some value => cases hoffer
      | none =>
        obtain ⟨value, hread, rfl⟩ := Decoder.map_eq_ok_iff.mp (Option.some.inj hoffer)
        refine ⟨fun other hother => ?_, h.2⟩
        obtain rfl := Option.some.inj hother
        exact .inr ⟨site, document, hread⟩
    · rw [if_neg hkey, Option.map_eq_some_iff] at hoffer
      obtain ⟨result, hoffer, hfound⟩ := hoffer
      obtain ⟨others, rfl, rfl⟩ := Decoder.map_eq_ok_iff.mp hfound
      exact ⟨h.1, ih h.2 hoffer⟩

theorem Gave.gives {fields : Fields βs} {slots : Slots βs} (h : fields.Gave slots)
    {values : Values βs} (hvalues : fields.values slots = .ok values) : fields.Gives values := by
  induction fields with
  | nil => trivial
  | cons field rest ih =>
    obtain ⟨slot, slots⟩ := slots
    rw [Fields.values] at hvalues
    cases hslot : slot.or field.absent with
    | none => simp [hslot] at hvalues
    | some value =>
      rw [hslot] at hvalues
      obtain ⟨others, hothers, rfl⟩ := Decoder.map_eq_ok_iff.mp hvalues
      refine ⟨?_, ih h.2 hothers⟩
      cases slot with
      | some found => exact h.1 value hslot
      | none => exact .inl hslot

/-- The members of an object fill the slots with values of the fields, and those that are kept are
spare. -/
theorem gave_of_gather {other : Other}
    (hother : ∀ site document value, other site document = .ok (some value) → value.Canonical)
    {site : Site} {fields : Fields βs} {members : List (Document.Key × Document)}
    {slots found : Slots βs} {extra kept : Members} (hslots : fields.Gave slots)
    (hextra : extra.Spare fields.keys)
    (h : fields.gather other site members slots extra = .ok (found, kept)) :
    fields.Gave found ∧ kept.Spare fields.keys := by
  induction members generalizing slots extra with
  | nil =>
    obtain ⟨rfl, rfl⟩ := Prod.ext_iff.mp (Except.ok.inj h)
    exact ⟨hslots, hextra⟩
  | cons member members ih =>
    obtain ⟨_ | key, document⟩ := member
    · cases h
    · rw [gather] at h
      cases hoffer : fields.offer site key document slots with
      | some result =>
        rw [hoffer] at h
        cases result with
        | error problem => cases h
        | ok filled => exact ih (hslots.of_offer hoffer) hextra h
      | none =>
        rw [hoffer] at h
        have hkey : key ∉ fields.keys := offer_eq_none_iff.mp hoffer
        cases hread : other site document with
        | error problem => simp [hread] at h
        | ok value =>
          rw [hread] at h
          cases value with
          | none => exact ih hslots hextra h
          | some value => exact ih hslots (hextra.insert hkey (hother _ _ _ hread)) h

theorem gives_of_readObject {other : Other}
    (hother : ∀ site document value, other site document = .ok (some value) → value.Canonical)
    {site : Site} {fields : Fields βs} {members : List (Document.Key × Document)}
    {missingEnd : Option Malformed} {values : Values βs} {extra : Members}
    (h : fields.readObject other site members missingEnd = .ok (values, extra)) :
    fields.Gives values ∧ extra.Spare fields.keys := by
  rw [readObject] at h
  split at h
  · cases h
  · split at h
    · cases h
    · next slots kept hgather =>
      obtain ⟨hslots, hkept⟩ :=
        gave_of_gather hother (gave_emptySlots fields) (Members.spare_nil _) hgather
      split at h
      · cases h
      · obtain ⟨found, hvalues, hfound⟩ := Decoder.map_eq_ok_iff.mp h
        obtain ⟨rfl, rfl⟩ := Prod.ext_iff.mp hfound
        exact ⟨hslots.gives hvalues, hkept⟩

theorem gives_of_readElements {site : Site} {expected : String} {total done : Nat}
    {missingEnd : Option Malformed} {fields : Fields βs} {documents : List Document}
    {values : Values βs}
    (h : fields.readElements site expected total missingEnd done documents = .ok values) :
    fields.Gives values := by
  induction fields generalizing done documents with
  | nil => trivial
  | cons field rest ih =>
    cases documents with
    | nil =>
      cases missingEnd with
      | some why => cases h
      | none =>
        cases habsent : field.absent with
        | none =>
          simp only [readElements, habsent] at h
          cases h
        | some value =>
          simp only [readElements, habsent] at h
          obtain ⟨others, hothers, rfl⟩ := Decoder.map_eq_ok_iff.mp h
          exact ⟨.inl habsent, ih hothers⟩
    | cons document documents =>
      rw [readElements] at h
      split at h
      · cases h
      · next value hread =>
        obtain ⟨others, hothers, rfl⟩ := Decoder.map_eq_ok_iff.mp h
        exact ⟨.inr ⟨site, document, hread⟩, ih hothers⟩

end Fields

namespace Decoder

theorem gives_of_record {name : String} {fields : Fields βs} {make : Values βs → α} {site : Site}
    {document : Document} {result : α} (h : record name fields make site document = .ok result) :
    ∃ values, fields.Gives values ∧ make values = result := by
  cases document with
  | object members missingEnd =>
    obtain ⟨⟨values, extra⟩, hread, rfl⟩ := map_eq_ok_iff.mp h
    refine ⟨values, (Fields.gives_of_readObject ?_ hread).1, rfl⟩
    intro site document value hvalue
    obtain ⟨_, -, hnone⟩ := map_eq_ok_iff.mp hvalue
    cases hnone
  | array documents missingEnd =>
    obtain ⟨values, hread, rfl⟩ := map_eq_ok_iff.mp h
    rw [Fields.readArray] at hread
    split at hread
    · cases hread
    · exact ⟨values, Fields.gives_of_readElements hread, rfl⟩
  | _ => cases h

theorem gives_of_openRecord {name : String} {fields : Fields βs} {make : Values βs → Members → α}
    {site : Site} {document : Document} {result : α}
    (h : openRecord name fields make site document = .ok result) :
    ∃ values extra, fields.Gives values ∧ extra.Spare fields.keys ∧ make values extra = result := by
  cases document with
  | object members missingEnd =>
    obtain ⟨⟨values, extra⟩, hread, rfl⟩ := map_eq_ok_iff.mp h
    have hkeep : ∀ site document value, Fields.keep site document = .ok (some value) →
        value.Canonical := by
      intro site document value hvalue
      obtain ⟨found, hfound, hsome⟩ := map_eq_ok_iff.mp hvalue
      obtain rfl := Option.some.inj hsome
      exact canonical_of_any hfound
    obtain ⟨hvalues, hextra⟩ := Fields.gives_of_readObject hkeep hread
    exact ⟨values, extra, hvalues, hextra, rfl⟩
  | _ => cases h

theorem nullable_eq_some {read : Decoder α} {site : Site} {document : Document} {value : α}
    (h : nullable read site document = .ok (some value)) :
    document ≠ .null ∧ read site document = .ok value := by
  cases document with
  | null => cases h
  | _ =>
    obtain ⟨found, hread, hfound⟩ := map_eq_ok_iff.mp h
    obtain rfl := Option.some.inj hfound
    exact ⟨nofun, hread⟩

theorem eq_null_of_any {site : Site} {document : Document} (h : any site document = .ok .null) :
    document = .null := by
  cases document with
  | null => rfl
  | number n => cases n <;> cases h
  | string s => cases s <;> cases h
  | array documents missingEnd =>
    rw [any] at h
    split at h
    · cases h
    · split at h
      · cases h
      · cases (eq_of_finish h).2
  | object members missingEnd =>
    rw [any] at h
    split at h
    · cases h
    · split at h
      · cases h
      · cases (eq_of_finish h).2
  | _ => cases h

theorem exists_read_of_list {read : Decoder α} {site : Site} {document : Document}
    {values : List α} (h : list read site document = .ok values) :
    ∀ value ∈ values, ∃ site document, read site document = .ok value := by
  cases document with
  | array documents missingEnd =>
    rw [list] at h
    split at h
    · cases h
    · next inner henter =>
      split at h
      · cases h
      · next found hitems =>
        obtain ⟨-, rfl⟩ := eq_of_finish h
        clear h
        induction documents generalizing found with
        | nil =>
          obtain rfl := Except.ok.inj hitems
          exact List.forall_mem_nil _
        | cons document documents ih =>
          rw [items] at hitems
          split at hitems
          · cases hitems
          · next value hvalue =>
            obtain ⟨others, hothers, rfl⟩ := map_eq_ok_iff.mp hitems
            exact List.forall_mem_cons.mpr ⟨⟨_, document, hvalue⟩, ih others hothers⟩
  | _ => cases h

theorem exists_content_of_tagged {name tag : String} {variants : List (String × β)}
    {known : List String} {content : β → Decoder α} {site : Site} {document : Document} {result : α}
    (h : tagged name tag variants known content site document = .ok result) :
    ∃ kind site document, content kind site document = .ok result := by
  cases document with
  | object members missingEnd =>
    rw [tagged] at h
    split at h
    · cases h
    · split at h
      · cases h
      · split at h
        · cases h
        · cases h
        · exact ⟨_, _, _, h⟩
  | array documents missingEnd =>
    cases documents with
    | nil =>
      simp only [tagged] at h
      split at h
      · cases h
      · cases missingEnd <;> cases h
    | cons document documents =>
      simp only [tagged] at h
      split at h
      · cases h
      · split at h
        · cases h
        · split at h
          · cases h
          · split at h
            · cases h
            · exact ⟨_, _, _, h⟩
  | _ => cases h

end Decoder

end Json

end CallFlow

import CallFlow.Proofs.Json.Record

/-!
# Records that are read in two ways

When each field of one record reads the image of what a field of another record reads, the same
holds of the records, whatever the document: both fail for the same reason, or both succeed.
-/

namespace CallFlow.Json

theorem Decoder.map_map {ε α β γ : Type} (e : Except ε α) (f : α → β) (g : β → γ) :
    (e.map f).map g = e.map (g ∘ f) := by
  cases e <;> rfl

namespace Fields

variable {βs γs : List Type}

/-- Fields that read the images of what other fields read, with the changes that this makes to what
was read so far and to the values. -/
inductive MapsTo : {βs γs : List Type} → Fields βs → Fields γs → (Slots βs → Slots γs) →
    (Values βs → Values γs) → Prop
  | nil : MapsTo .nil .nil id id
  | cons {β γ : Type} {βs γs : List Type} {field : Field β} {image : Field γ} {rest : Fields βs}
      {images : Fields γs} {change : β → γ} {onSlots : Slots βs → Slots γs}
      {onValues : Values βs → Values γs} (hkey : image.key = field.key)
      (hread : ∀ site document,
        image.read site document = (field.read site document).map change)
      (habsent : image.absent = field.absent.map change)
      (hrest : MapsTo rest images onSlots onValues) :
      MapsTo (.cons field rest) (.cons image images) (Prod.map (Option.map change) onSlots)
        (Prod.map change onValues)

namespace MapsTo

variable {fields : Fields βs} {images : Fields γs} {onSlots : Slots βs → Slots γs}
  {onValues : Values βs → Values γs}

/-- A field that both records read in one way. -/
theorem cons_self {β : Type} (field : Field β) (h : MapsTo fields images onSlots onValues) :
    MapsTo (.cons field fields) (.cons field images) (Prod.map (Option.map id) onSlots)
      (Prod.map id onValues) := by
  refine .cons rfl (fun site document => ?_) ?_ h
  · cases field.read site document <;> rfl
  · rw [Option.map_id_fun, id]

theorem count (h : MapsTo fields images onSlots onValues) : images.count = fields.count := by
  induction h with
  | nil => rfl
  | cons hkey hread habsent hrest ih => rw [Fields.count, Fields.count, ih]

theorem emptySlots (h : MapsTo fields images onSlots onValues) :
    onSlots fields.emptySlots = images.emptySlots := by
  induction h with
  | nil => rfl
  | cons hkey hread habsent hrest ih => exact Prod.ext rfl ih

theorem offer (h : MapsTo fields images onSlots onValues) (site : Site) (key : String)
    (document : Document) (slots : Slots βs) :
    images.offer site key document (onSlots slots) =
      (fields.offer site key document slots).map fun result => result.map onSlots := by
  induction h with
  | nil => rfl
  | cons hkey hread habsent hrest ih =>
    obtain ⟨slot, slots⟩ := slots
    rw [offer_cons, Prod.map_apply, offer_cons, hkey]
    split
    · cases slot with
      | some found => rfl
      | none =>
        simp only [Option.map_none, Option.map_some, hread, Decoder.map_map]
        rfl
    · rw [ih, Option.map_map, Option.map_map]
      refine congrArg (Option.map · _) (funext fun result => ?_)
      simp only [Function.comp_apply, Decoder.map_map]
      rfl

theorem gather (h : MapsTo fields images onSlots onValues) (other : Other) (site : Site)
    (members : List (Document.Key × Document)) (slots : Slots βs) (extra : Members) :
    images.gather other site members (onSlots slots) extra =
      (fields.gather other site members slots extra).map fun (slots, extra) =>
        (onSlots slots, extra) := by
  induction members generalizing slots extra with
  | nil => rfl
  | cons member members ih =>
    obtain ⟨_ | key, document⟩ := member
    · rfl
    · rw [Fields.gather, Fields.gather, h.offer]
      cases fields.offer site key document slots with
      | some result =>
        cases result with
        | error problem => rfl
        | ok slots => exact ih slots extra
      | none =>
        cases other site document with
        | error problem => rfl
        | ok kept => cases kept <;> exact ih slots _

theorem values (h : MapsTo fields images onSlots onValues) (slots : Slots βs) :
    images.values (onSlots slots) = (fields.values slots).map onValues := by
  induction h with
  | nil => rfl
  | @cons β γ βs γs field image rest images change onSlots onValues hkey hread habsent hrest ih =>
    obtain ⟨slot, slots⟩ := slots
    have hslot : (slot.map change).or image.absent = (slot.or field.absent).map change := by
      rw [habsent]
      cases slot <;> rfl
    rw [Prod.map_apply, Fields.values, Fields.values, hslot, hkey, ih]
    cases slot.or field.absent with
    | none => rfl
    | some value =>
      simp only [Option.map_some, Decoder.map_map]
      rfl

theorem readObject (h : MapsTo fields images onSlots onValues) (other : Other) (site : Site)
    (members : List (Document.Key × Document)) (missingEnd : Option Malformed) :
    images.readObject other site members missingEnd =
      (fields.readObject other site members missingEnd).map fun (values, extra) =>
        (onValues values, extra) := by
  rw [Fields.readObject, Fields.readObject, ← h.emptySlots]
  cases site.enter with
  | error problem => rfl
  | ok site =>
    simp only [h.gather]
    cases fields.gather other site members fields.emptySlots [] with
    | error problem => rfl
    | ok gathered =>
      obtain ⟨slots, extra⟩ := gathered
      cases missingEnd with
      | some why => rfl
      | none =>
        simp only [Except.map, h.values]
        cases fields.values slots <;> rfl

theorem readElements (h : MapsTo fields images onSlots onValues) (site : Site) (expected : String)
    (total : Nat) (missingEnd : Option Malformed) (done : Nat) (documents : List Document) :
    images.readElements site expected total missingEnd done documents =
      (fields.readElements site expected total missingEnd done documents).map onValues := by
  induction h generalizing done documents with
  | nil =>
    cases documents with
    | nil => cases missingEnd <;> rfl
    | cons document documents => rfl
  | @cons β γ βs γs field image rest images change onSlots onValues hkey hread habsent hrest ih =>
    cases documents with
    | nil =>
      cases missingEnd with
      | some why => rfl
      | none =>
        cases hfield : field.absent with
        | none =>
          have himage : image.absent = none := by rw [habsent, hfield, Option.map_none]
          simp only [Fields.readElements, hfield, himage]
          rfl
        | some value =>
          have himage : image.absent = some (change value) := by
            rw [habsent, hfield, Option.map_some]
          simp only [Fields.readElements, hfield, himage, ih, Decoder.map_map]
          rfl
    | cons document documents =>
      rw [Fields.readElements, Fields.readElements, hread]
      cases field.read site document with
      | error problem => rfl
      | ok value =>
        simp only [Except.map, ih]
        cases rest.readElements site expected total missingEnd (done + 1) documents <;> rfl

theorem readArray (h : MapsTo fields images onSlots onValues) (site : Site) (name : String)
    (documents : List Document) (missingEnd : Option Malformed) :
    images.readArray site name documents missingEnd =
      (fields.readArray site name documents missingEnd).map onValues := by
  rw [Fields.readArray, Fields.readArray, h.count]
  cases site.enter with
  | error problem => rfl
  | ok site => exact h.readElements site _ _ missingEnd 0 documents

end MapsTo

end Fields

namespace Decoder

variable {α β : Type} {βs γs : List Type}

theorem record_mapsTo {fields : Fields βs} {images : Fields γs} {onSlots : Slots βs → Slots γs}
    {onValues : Values βs → Values γs} (h : fields.MapsTo images onSlots onValues)
    {make : Values βs → α} {makeImage : Values γs → β} {change : α → β}
    (hmake : ∀ values, makeImage (onValues values) = change (make values)) (name : String)
    (site : Site) (document : Document) :
    record name images makeImage site document =
      (record name fields make site document).map change := by
  cases document with
  | object members missingEnd =>
    rw [record, record, h.readObject, map_map, map_map]
    exact congrArg (Except.map · _) (funext fun read => hmake read.1)
  | array documents missingEnd =>
    rw [record, record, h.readArray, map_map, map_map]
    exact congrArg (Except.map · _) (funext hmake)
  | _ => rfl

theorem items_map {read : Decoder α} {image : Decoder β} {change : α → β}
    (h : ∀ site document, image site document = (read site document).map change) (site : Site)
    (documents : List Document) :
    items image site documents = (items read site documents).map (List.map change) := by
  induction documents with
  | nil => rfl
  | cons document documents ih =>
    rw [items, items, h]
    cases read site document with
    | error problem => rfl
    | ok value =>
      simp only [Except.map, ih]
      cases items read site documents <;> rfl

theorem list_map {read : Decoder α} {image : Decoder β} {change : α → β}
    (h : ∀ site document, image site document = (read site document).map change) (site : Site)
    (document : Document) :
    list image site document = (list read site document).map (List.map change) := by
  cases document with
  | array documents missingEnd =>
    rw [list, list]
    cases site.enter with
    | error problem => rfl
    | ok site =>
      simp only [items_map h]
      cases items read site documents with
      | error problem => rfl
      | ok values => cases missingEnd <;> rfl
  | _ => rfl

theorem eq_ok_of_ofText {read : Decoder α} {text : String} {value : α}
    (h : ofText read text = .ok value) :
    read ⟨.text, 0⟩ (Document.ofText text).1 = .ok value := by
  rw [ofText] at h
  cases hread : read ⟨.text, 0⟩ (Document.ofText text).1 with
  | error problem =>
    simp only [hread] at h
    cases h
  | ok found =>
    simp only [hread] at h
    split at h
    · cases h
    · exact h

theorem ofText_map {read : Decoder α} {image : Decoder β} {change : α → β}
    (h : ∀ site document, image site document = (read site document).map change) (text : String) :
    ofText image text = (ofText read text).map change := by
  rw [ofText, ofText]
  obtain ⟨document, more⟩ := Document.ofText text
  simp only [h]
  cases read ⟨.text, 0⟩ document with
  | error problem => rfl
  | ok value => cases more <;> rfl

end Decoder

end CallFlow.Json

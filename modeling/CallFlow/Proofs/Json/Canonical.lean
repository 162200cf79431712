import CallFlow.Json.Decode
import CallFlow.Proofs.Json.Members

/-!
# Canonical values

To read a value as any JSON is to bring its objects in order, at every depth; the only thing that
can go wrong is that a text nests too many containers.  A value whose objects are in order is read
as it is.
-/

namespace CallFlow.Json

mutual

/-- A value with the keys of every object in order; of a repeated key the last value counts. -/
def sorted : Json → Json
  | .array items => .array (sortedItems items)
  | .object members => .object (Members.ofList (sortedMembers members))
  | value => value

/-- Items with the keys of every object in order. -/
def sortedItems : List Json → List Json
  | [] => []
  | item :: items => sorted item :: sortedItems items

/-- Members with the keys of every object under their keys in order. -/
def sortedMembers : List (String × Json) → List (String × Json)
  | [] => []
  | (key, value) :: members => (key, sorted value) :: sortedMembers members

end

theorem sortedItems_eq (items : List Json) : sortedItems items = items.map sorted := by
  induction items with
  | nil => rfl
  | cons item items ih => rw [sortedItems, ih, List.map_cons]

theorem sortedMembers_eq (members : List (String × Json)) :
    sortedMembers members = members.map fun member => (member.1, member.2.sorted) := by
  induction members with
  | nil => rfl
  | cons member members ih =>
    obtain ⟨key, value⟩ := member
    rw [sortedMembers, ih, List.map_cons]

theorem sorted_array (items : List Json) : (array items).sorted = .array (items.map sorted) := by
  rw [sorted, sortedItems_eq]

/-- The canonical form of an object is told by what is under its keys. -/
theorem sorted_object_eq {members : List (String × Json)} {expected : Members}
    (hdistinct : (Members.keys members).Nodup) (hsorted : expected.Sorted)
    (hget : ∀ key, expected.get? key = (Members.get? members key).map sorted) :
    (object members).sorted = .object expected := by
  have hkeys : (Members.keys (members.map fun member => (member.1, member.2.sorted))).Nodup := by
    rw [Members.keys, List.map_map]
    exact hdistinct
  rw [sorted, sortedMembers_eq]
  congr 1
  refine (Members.sorted_ofList _).ext hsorted fun key => ?_
  rw [Members.get?_ofList hkeys, Members.get?_mapValues, hget]

/-- A value whose objects are in order at every depth. -/
def Canonical (value : Json) : Prop :=
  value.sorted = value

theorem canonical_array_iff {items : List Json} :
    (array items).Canonical ↔ ∀ item ∈ items, item.Canonical := by
  rw [Canonical, sorted_array, array.injEq]
  constructor
  · intro h item hitem
    exact List.map_inj_left.mp (h.trans (List.map_id items).symm) item hitem
  · intro h
    exact (List.map_inj_left.mpr h).trans (List.map_id items)

theorem canonical_object_iff {members : Members} :
    (object members).Canonical ↔
      members.Sorted ∧ ∀ member ∈ members, member.2.Canonical := by
  constructor
  · intro h
    rw [Canonical, sorted, sortedMembers_eq, object.injEq] at h
    have hsorted : members.Sorted := h ▸ Members.sorted_ofList _
    refine ⟨hsorted, fun member hmember => ?_⟩
    have hkeys : (Members.keys (members.map fun member => (member.1, member.2.sorted))).Nodup := by
      rw [Members.keys, List.map_map]
      exact hsorted.nodup_keys
    have hvalue := (Members.get?_eq_some_iff hsorted.nodup_keys).mpr hmember
    have hget := congrArg (fun members => Members.get? members member.1) h
    simp only [Members.get?_ofList hkeys, Members.get?_mapValues, hvalue] at hget
    exact Option.some.inj hget
  · rintro ⟨hsorted, hvalues⟩
    refine sorted_object_eq hsorted.nodup_keys hsorted fun key => ?_
    cases hvalue : members.get? key with
    | none => rfl
    | some value =>
      rw [Option.map_some, hvalues _ (Members.mem_of_get? hvalue)]

theorem canonical_insertAll {members : Members} (hmembers : (object members).Canonical)
    {pairs : List (String × Json)} (hpairs : ∀ pair ∈ pairs, pair.2.Canonical) :
    (object (members.insertAll pairs)).Canonical := by
  rw [canonical_object_iff] at hmembers ⊢
  refine ⟨Members.sorted_insertAll hmembers.1 pairs, fun member hmember => ?_⟩
  rcases Members.mem_insertAll hmember with hmember | hmember
  · exact hpairs member hmember
  · exact hmembers.2 member hmember

/-! ## The depth of containers -/

namespace Site

/-- The site of what a container at a site holds. -/
def inside (site : Site) : Site :=
  { site with depth := site.depth + 1 }

/-- Whether a container may be entered at a site. -/
def MayEnter (site : Site) : Prop :=
  site.source = .text → site.depth + 1 < depthLimit

/-- Whether a value may stand at a site: a text nests containers only up to the limit. -/
def Admits (site : Site) (value : Json) : Prop :=
  site.source = .text → value.Within (depthLimit - 1 - site.depth)

open Classical in
theorem enter_eq (site : Site) :
    site.enter = if site.MayEnter then .ok site.inside else .error (.malformed .tooDeep) := by
  by_cases hmay : site.MayEnter
  · have hroom : ¬(site.source = .text ∧ depthLimit ≤ site.depth + 1) := fun h =>
      absurd (hmay h.1) (Nat.not_lt.mpr h.2)
    rw [enter, if_neg hroom, if_pos hmay]
    rfl
  · have hfull : site.source = .text ∧ depthLimit ≤ site.depth + 1 := by
      rw [MayEnter, Classical.not_imp, Nat.not_lt] at hmay
      exact hmay
    rw [enter, if_pos hfull, if_neg hmay]

/-- A container may stand where it may be entered and its parts may stand inside. -/
theorem admits_container_iff {site : Site} {value : Json} (parts : List Json)
    (hzero : ¬value.Within 0) (hsucc : ∀ n, value.Within (n + 1) ↔ ∀ part ∈ parts, part.Within n) :
    site.Admits value ↔ site.MayEnter ∧ ∀ part ∈ parts, site.inside.Admits part := by
  by_cases htext : site.source = .text
  · have hinside : site.inside.source = .text := htext
    simp only [Admits, MayEnter, htext, hinside, true_implies]
    rcases Nat.lt_or_ge (site.depth + 1) depthLimit with hlt | hge
    · have hroom : depthLimit - 1 - site.depth = depthLimit - 1 - site.inside.depth + 1 := by
        change _ = depthLimit - 1 - (site.depth + 1) + 1
        omega
      rw [hroom, hsucc]
      exact (and_iff_right hlt).symm
    · have hroom : depthLimit - 1 - site.depth = 0 := by omega
      rw [hroom]
      exact ⟨fun h => absurd h hzero, fun h => absurd h.1 (Nat.not_lt.mpr hge)⟩
  · have hinside : site.inside.source ≠ .text := htext
    simp [Admits, MayEnter, htext, hinside]

theorem admits_array_iff {site : Site} {items : List Json} :
    site.Admits (.array items) ↔ site.MayEnter ∧ ∀ item ∈ items, site.inside.Admits item :=
  admits_container_iff items id fun _ => Iff.rfl

theorem admits_object_iff {site : Site} {members : List (String × Json)} :
    site.Admits (.object members) ↔
      site.MayEnter ∧ ∀ member ∈ members, site.inside.Admits member.2 := by
  rw [admits_container_iff (members.map (·.2)) id, List.forall_mem_map]
  intro n
  rw [List.forall_mem_map]
  exact Iff.rfl

/-- A value that is no container may stand anywhere. -/
theorem admits_string (site : Site) (text : String) : site.Admits (.string text) := by
  intro _
  cases depthLimit - 1 - site.depth <;> trivial

theorem admits_natural (site : Site) (n : UInt64) : site.Admits (Json.natural n) := by
  intro _
  cases depthLimit - 1 - site.depth <;> trivial

theorem admits_of_source_ne {site : Site} (h : site.source ≠ .text) (value : Json) :
    site.Admits value :=
  fun htext => absurd htext h

/-- Whether a number of containers may be entered from a site on, each inside the one before. -/
def HasRoom (n : Nat) (site : Site) : Prop :=
  site.source = .text → site.depth + n < depthLimit

theorem HasRoom.mono {m n : Nat} {site : Site} (h : site.HasRoom n) (hle : m ≤ n) :
    site.HasRoom m := by
  intro htext
  have hroom := h htext
  omega

theorem HasRoom.mayEnter {n : Nat} {site : Site} (h : site.HasRoom (n + 1)) : site.MayEnter := by
  intro htext
  have hroom := h htext
  omega

theorem HasRoom.inside {n : Nat} {site : Site} (h : site.HasRoom (n + 1)) :
    site.inside.HasRoom n := by
  intro htext
  have hroom := h htext
  change site.depth + 1 + n < depthLimit
  omega

end Site

/-! ## Reading any value -/

namespace Decoder

open Classical in
/-- A value that stands at a site is read as its canonical form, unless it is nested too deep. -/
def AnyReads (value : Json) : Prop :=
  ∀ site, any site (Document.ofJson value) =
    if site.Admits value then .ok value.sorted else .error (.malformed .tooDeep)

open Classical in
theorem anyItems_ofItems {items : List Json} (h : ∀ item ∈ items, AnyReads item) (site : Site) :
    anyItems site (Document.ofItems items) =
      if ∀ item ∈ items, site.Admits item then .ok (items.map sorted)
      else .error (.malformed .tooDeep) := by
  induction items with
  | nil => simp [Document.ofItems, anyItems]
  | cons item items ih =>
    obtain ⟨hitem, hitems⟩ := List.forall_mem_cons.mp h
    rw [Document.ofItems, anyItems, hitem site, ih hitems]
    by_cases hadmits : site.Admits item
    · by_cases hrest : ∀ other ∈ items, site.Admits other
      · rw [if_pos hadmits, if_pos hrest, if_pos (List.forall_mem_cons.mpr ⟨hadmits, hrest⟩)]
        rfl
      · rw [if_pos hadmits, if_neg hrest, if_neg fun h => hrest (List.forall_mem_cons.mp h).2]
        rfl
    · rw [if_neg hadmits, if_neg fun h => hadmits (List.forall_mem_cons.mp h).1]

open Classical in
theorem anyMembers_ofMembers {members : List (String × Json)}
    (h : ∀ member ∈ members, AnyReads member.2) (site : Site) :
    anyMembers site (Document.ofMembers members) =
      if ∀ member ∈ members, site.Admits member.2 then
        .ok (members.map fun member => (member.1, member.2.sorted))
      else .error (.malformed .tooDeep) := by
  induction members with
  | nil => simp [Document.ofMembers, anyMembers]
  | cons member members ih =>
    obtain ⟨key, value⟩ := member
    obtain ⟨hvalue, hmembers⟩ := List.forall_mem_cons.mp h
    have hcons : (∀ member ∈ (key, value) :: members, site.Admits member.2) ↔
        site.Admits value ∧ ∀ member ∈ members, site.Admits member.2 := List.forall_mem_cons
    rw [Document.ofMembers, anyMembers, hvalue site, ih hmembers]
    by_cases hadmits : site.Admits value
    · by_cases hrest : ∀ member ∈ members, site.Admits member.2
      · rw [if_pos hadmits, if_pos hrest, if_pos (hcons.mpr ⟨hadmits, hrest⟩)]
        rfl
      · rw [if_pos hadmits, if_neg hrest, if_neg fun h => hrest (hcons.mp h).2]
        rfl
    · rw [if_neg hadmits, if_neg fun h => hadmits (hcons.mp h).1]

theorem anyReads_leaf {value : Json} (hread : ∀ site, any site (Document.ofJson value) = .ok value)
    (hwithin : ∀ n, value.Within n) (hsorted : value.sorted = value) : AnyReads value := by
  intro site
  have hadmits : site.Admits value := fun _ => hwithin _
  rw [hread, hsorted, if_pos hadmits]

theorem anyReads (value : Json) : AnyReads value := by
  induction value using inductionOn with
  | null => exact anyReads_leaf (fun _ => rfl) (fun n => by cases n <;> trivial) rfl
  | bool b => exact anyReads_leaf (fun _ => rfl) (fun n => by cases n <;> trivial) rfl
  | number n => exact anyReads_leaf (fun _ => rfl) (fun n => by cases n <;> trivial) rfl
  | string s => exact anyReads_leaf (fun _ => rfl) (fun n => by cases n <;> trivial) rfl
  | array items ih =>
    intro site
    rw [Document.ofJson, any, Site.enter_eq]
    by_cases hmay : site.MayEnter
    · by_cases hitems : ∀ item ∈ items, site.inside.Admits item
      · rw [if_pos hmay, if_pos (Site.admits_array_iff.mpr ⟨hmay, hitems⟩), sorted_array]
        simp only [anyItems_ofItems ih, if_pos hitems, finish]
      · rw [if_pos hmay, if_neg fun h => hitems (Site.admits_array_iff.mp h).2]
        simp only [anyItems_ofItems ih, if_neg hitems]
    · rw [if_neg hmay, if_neg fun h => hmay (Site.admits_array_iff.mp h).1]
  | object members ih =>
    intro site
    rw [Document.ofJson, any, Site.enter_eq]
    by_cases hmay : site.MayEnter
    · by_cases hmembers : ∀ member ∈ members, site.inside.Admits member.2
      · rw [if_pos hmay, if_pos (Site.admits_object_iff.mpr ⟨hmay, hmembers⟩), sorted,
          sortedMembers_eq]
        simp only [anyMembers_ofMembers ih, if_pos hmembers, finish]
      · rw [if_pos hmay, if_neg fun h => hmembers (Site.admits_object_iff.mp h).2]
        simp only [anyMembers_ofMembers ih, if_neg hmembers]
    · rw [if_neg hmay, if_neg fun h => hmay (Site.admits_object_iff.mp h).1]

theorem any_ofJson_eq_ok_iff {site : Site} {value result : Json} :
    any site (Document.ofJson value) = .ok result ↔ site.Admits value ∧ value.sorted = result := by
  rw [anyReads value site]
  by_cases h : site.Admits value <;> simp [h]

/-! ## What reading gives -/

theorem map_eq_ok_iff {ε α β : Type} {f : α → β} {e : Except ε α} {b : β} :
    e.map f = .ok b ↔ ∃ a, e = .ok a ∧ f a = b := by
  cases e with
  | error problem => simp [Except.map]
  | ok a => simp [Except.map]

theorem eq_of_finish {α : Type} {value result : α} {missingEnd : Option Malformed}
    (h : finish value missingEnd = .ok result) : missingEnd = none ∧ value = result := by
  cases missingEnd with
  | none => exact ⟨rfl, Except.ok.inj h⟩
  | some why => cases h

mutual

/-- Whatever is read as any value has its objects in order. -/
theorem canonical_of_any {site : Site} :
    ∀ {document : Document} {value : Json}, any site document = .ok value → value.Canonical
  | .null, _, h | .bool _, _, h | .number (some _), _, h | .string (.ok _), _, h => by
    obtain rfl := Except.ok.inj h
    rfl
  | .array documents missingEnd, value, h => by
    rw [any, Site.enter_eq] at h
    split at h
    · cases h
    · split at h
      · cases h
      · next values hvalues =>
        obtain ⟨-, rfl⟩ := eq_of_finish h
        exact canonical_array_iff.mpr (canonical_of_anyItems hvalues)
  | .object members missingEnd, value, h => by
    rw [any, Site.enter_eq] at h
    split at h
    · cases h
    · split at h
      · cases h
      · next pairs hpairs =>
        obtain ⟨-, rfl⟩ := eq_of_finish h
        have hempty : (object []).Canonical := rfl
        exact canonical_insertAll hempty (canonical_of_anyMembers hpairs)

theorem canonical_of_anyItems {site : Site} :
    ∀ {documents : List Document} {values : List Json}, anyItems site documents = .ok values →
      ∀ value ∈ values, value.Canonical
  | [], _, h => by
    obtain rfl := Except.ok.inj h
    nofun
  | document :: documents, _, h => by
    rw [anyItems] at h
    split at h
    · cases h
    · next value hvalue =>
      obtain ⟨values, hvalues, rfl⟩ := map_eq_ok_iff.mp h
      exact List.forall_mem_cons.mpr ⟨canonical_of_any hvalue, canonical_of_anyItems hvalues⟩

theorem canonical_of_anyMembers {site : Site} :
    ∀ {members : List (Document.Key × Document)} {pairs : List (String × Json)},
      anyMembers site members = .ok pairs → ∀ pair ∈ pairs, pair.2.Canonical
  | [], _, h => by
    obtain rfl := Except.ok.inj h
    nofun
  | (.ok key, document) :: members, _, h => by
    rw [anyMembers] at h
    split at h
    · cases h
    · next value hvalue =>
      obtain ⟨pairs, hpairs, rfl⟩ := map_eq_ok_iff.mp h
      intro pair hpair
      rcases List.mem_cons.mp hpair with rfl | hpair
      · exact canonical_of_any hvalue
      · exact canonical_of_anyMembers hpairs pair hpair

end

/-! ## Passing over values -/

theorem skip_ofJson (value : Json) : skip (Document.ofJson value) = .ok () := by
  induction value using inductionOn with
  | null => rfl
  | bool b => rfl
  | number n => rfl
  | string s => rfl
  | array items ih =>
    have hitems : skipItems (Document.ofItems items) = .ok () := by
      induction items with
      | nil => rfl
      | cons item items hrest =>
        obtain ⟨hitem, hitems⟩ := List.forall_mem_cons.mp ih
        rw [Document.ofItems, skipItems, hitem]
        exact hrest hitems
    rw [Document.ofJson, skip, hitems]
    rfl
  | object members ih =>
    have hmembers : skipMembers (Document.ofMembers members) = .ok () := by
      induction members with
      | nil => rfl
      | cons member members hrest =>
        obtain ⟨key, value⟩ := member
        obtain ⟨hvalue, hmembers⟩ := List.forall_mem_cons.mp ih
        rw [Document.ofMembers, skipMembers, hvalue]
        exact hrest hmembers
    rw [Document.ofJson, skip, hmembers]
    rfl

end Decoder

end CallFlow.Json
